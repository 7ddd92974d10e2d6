import NestedShell.Host.Script.Quotes

/-! Reading commands, a line of them at a time. -/
namespace NestedShell.Host.Script

/-- Builtins that no function can take the name of. -/
def specialNames : List String :=
  [".", ":", "break", "continue", "eval", "exec", "exit", "export", "readonly", "return", "set",
   "shift", "times", "trap", "unset"]

/-- What is read: commands up to a word that ends them, commands joined by `&&` and `||`, those
joined by `|`, or one. A list may be of one line only, or empty. -/
inductive Goal where
  | list (isLine mayBeEmpty : Bool)
  | chain
  | pipeline
  | command

abbrev Reader := Goal → Reading Command

/-- Reads what a redirection starts with, behind its first character. -/
def readRedirect (descriptor? : Option Nat) (c : Char) : Reading Redirect := do
  let d ← getJoined
  if c = '>' then
    let descriptor := descriptor?.getD 1
    match d with
    | some '>' => return .file descriptor .append []
    | some '|' => return .file descriptor .clobber []
    | some '&' => return .copy descriptor []
    | _ =>
      ungetChar d
      return .file descriptor .write []
  else
    let descriptor := descriptor?.getD 0
    match d with
    | some '<' =>
      let e ← getJoined
      let stripsTabs := e = some '-'
      unless stripsTabs do ungetChar e
      modify fun s =>
        { s with nextDocument := s.nextDocument + 1,
                 awaited := s.awaited ++ [⟨s.nextDocument, [], stripsTabs, false⟩] }
      return .document descriptor ((← get).nextDocument - 1)
    | some '&' => return .copy descriptor []
    | some '>' => return .file descriptor .both []
    | _ =>
      ungetChar d
      return .file descriptor .read []

/-- Reads a word from `c` on; a redirection may follow its descriptor at once. -/
def readWord (nested : Nested) (c : Option Char) : Reading Token := do
  let (w, c) ← readParts nested none mostTextLength false c { level := { quoting := .plain } }
  checkClosed w
  let parts := w.parts.reverse
  let descriptor : Option (Option Nat) := match parts with
    | [] => some none
    | [.char d false] => if d.isDigit then some (some (d.toNat - '0'.toNat)) else none
    | _ => none
  match c, descriptor with
  | some x, some descriptor? =>
    if (x = '>' || x = '<') && !w.isQuoted then
      let redirect ← readRedirect descriptor? x
      modify fun s => { s with redirect }
      return .redirect
  | _, _ => pure ()
  ungetChar c
  modify fun s => { s with word := parts, isQuoted := w.isQuoted }
  return .word

/-- Skips the rest of a comment, up to the end of its line. The number bounds its length. -/
def skipComment : Nat → Reading Unit
  | 0 => return
  | limit + 1 => do
    let c ← getChar
    if c = none || c = some '\n' then ungetChar c else skipComment limit

/-- One token or another, as the next character is `c` or not. -/
def pairedToken (c : Char) (paired single : Token) : Reading Token := do
  let d ← getJoined
  if d = some c then return paired
  ungetChar d
  return single

/-- Reads a token, whatever it may be an alias of. The number bounds the comments before it. -/
def readRawToken (nested : Nested) : Nat → Reading Token
  | 0 => failReading "too many comments"
  | limit + 1 => do
    match ← getJoined with
    | none => return .ending
    | some ' ' => readRawToken nested limit
    | some '\t' => readRawToken nested limit
    | some '#' =>
      skipComment mostNameLength
      readRawToken nested limit
    | some '\n' =>
      nextLine
      return .line
    | some '&' => pairedToken '&' .both .ampersand
    | some '|' => pairedToken '|' .either .bar
    | some ';' => pairedToken ';' .caseEnd .semicolon
    | some '(' => return .opening
    | some ')' => return .closing
    | some c => readWord nested (some c)

def readNextToken (nested : Nested) : Reading Token := do
  if (← get).isAgain then
    modify fun s => { s with isAgain := false }
    return (← get).token
  let token ← readRawToken nested mostNameLength
  modify fun s => { s with token }
  return token

/-- Skips line ends, reading the documents that the lines have named. -/
def skipLines (nested : Nested) : Nat → Token → Reading Token
  | 0, token => return token
  | limit + 1, token => do
    if token ≠ .line then return token
    readDocuments nested
    lookFor {}
    skipLines nested limit (← readNextToken nested)

/-- Reads a token with the keywords and aliases that are looked for. The number bounds how many
aliases stand for one another. -/
def readTokenWithin (nested : Nested) : Nat → Lookout → Reading Token
  | 0, _ => failReading "too many aliases"
  | limit + 1, lookout => do
    let token ← readNextToken nested
    let token ← if lookout.skipsLines then skipLines nested mostNameLength token else pure token
    let s ← get
    let keywords := lookout.keywords || s.lookout.keywords
    let aliases := lookout.aliases || s.lookout.aliases
    lookFor {}
    if token ≠ .word || s.isQuoted then return token
    match (plainText? s.word).map String.ofList with
    | none => return token
    | some text =>
      if keywords && Token.keywords.contains text then
        modify fun s => { s with token := .keyword text }
        return .keyword text
      match (if aliases then s.replacement? text else none) with
      | none => return token
      | some replacement =>
        let cs := replacement.toList
        unless cs.isEmpty do
          let asksNext := cs.getLast? = some ' ' || cs.getLast? = some '\t'
          modify (·.push { text := cs, name := some text, asksNext })
        readTokenWithin nested limit { lookout with keywords, aliases }

def readToken (nested : Nested) : Reading Token := do
  readTokenWithin nested mostNameLength (← get).lookout

/-- The next token has to be this one. -/
def expect (nested : Nested) (token : Token) : Reading Unit := do
  if (← readToken nested) ≠ token then unexpected (some token)

def afterLines : Lookout := { skipsLines := true, keywords := true, aliases := true }

/-- The last word, which ends a redirection. -/
def finishRedirect (nested : Nested) (redirect : Redirect) : Reading Redirect := do
  match redirect with
  | .document _ _ => lookFor { endMark := true }
  | _ => pure ()
  if (← readToken nested) ≠ .word then unexpected none
  let s ← get
  match redirect with
  | .file descriptor access _ => return .file descriptor access s.word
  | .copy descriptor _ => return .copy descriptor s.word
  | .document descriptor index =>
    let named (a : Awaited) : Awaited :=
      if a.index = index then { a with endMark := bareText s.word, isLiteral := s.isQuoted } else a
    set { s with awaited := s.awaited.map named }
    return .document descriptor index

/-- The redirections behind a compound command. -/
def readRedirects (nested : Nested) : Nat → List Redirect → Reading (List Redirect)
  | 0, redirects => return redirects.reverse
  | limit + 1, redirects => do
    if (← readToken nested) = .redirect then
      let redirect ← finishRedirect nested (← get).redirect
      readRedirects nested limit (redirect :: redirects)
    else
      readAgain
      return redirects.reverse

/-- The words, assignments and redirections of a simple command, the last ones first. -/
structure Simple where
  line : Nat
  assignments : List Word := []
  words : List Word := []
  redirects : List Redirect := []
  /-- The next word may be an assignment or an alias. -/
  isStart : Bool := true

def Simple.command (s : Simple) : Command :=
  .simple s.line s.assignments.reverse s.words.reverse s.redirects.reverse

/-- A function's definition, behind its name and the first parenthesis. -/
def readFunction (read : Reader) (nested : Nested) (name : Word) : Reading Command := do
  expect nested .closing
  match plainText? name with
  | some cs =>
    if !isName cs || specialNames.contains (String.ofList cs) then
      failReading "Bad function name"
    lookFor afterLines
    return .function (String.ofList cs) (← read .command)
  | none => failReading "Bad function name"

def readSimple (read : Reader) (nested : Nested) : Nat → Simple → Reading Command
  | 0, s => return s.command
  | limit + 1, s => do
    lookFor { aliases := s.isStart }
    match ← readToken nested with
    | .word =>
      let w := (← get).word
      readSimple read nested limit
        (if s.isStart && isAssignment w then { s with assignments := w :: s.assignments }
          else { s with words := w :: s.words, isStart := false })
    | .redirect =>
      let redirect ← finishRedirect nested (← get).redirect
      readSimple read nested limit { s with redirects := redirect :: s.redirects }
    | .opening =>
      match s.words, s.assignments, s.redirects with
      | [name], [], [] => readFunction read nested name
      | _, _, _ =>
        readAgain
        return s.command
    | _ =>
      readAgain
      return s.command

/-- The rest of a branch, behind its `if` or `elif`. -/
def readBranch (read : Reader) (nested : Nested) : Nat → Reading Command
  | 0 => failReading "too many branches"
  | limit + 1 => do
    let test ← read (.list false false)
    expect nested (.keyword "then")
    let yes ← read (.list false false)
    match ← readToken nested with
    | .keyword "elif" => return .branch test yes (← readBranch read nested limit)
    | .keyword "else" => return .branch test yes (← read (.list false false))
    | _ =>
      readAgain
      return .branch test yes .nothing

def readLoop (read : Reader) (nested : Nested) (isUntil : Bool) : Reading Command := do
  let test ← read (.list false false)
  expect nested (.keyword "do")
  return .loop isUntil test (← read (.list false false))

/-- Words up to a token that is none. -/
def readWords (nested : Nested) : Nat → List Word → Reading (List Word × Token)
  | 0, words => return (words.reverse, .ending)
  | limit + 1, words => do
    let token ← readToken nested
    if token ≠ .word then return (words.reverse, token)
    readWords nested limit ((← get).word :: words)

/-- All arguments, each a word. -/
def allArguments : List Word := [[.mark, .parameter "@" .value false [], .mark]]

def readEach (read : Reader) (nested : Nested) (line : Nat) : Reading Command := do
  let token ← readToken nested
  let s ← get
  match plainText? s.word with
  | some name =>
    if token ≠ .word || s.isQuoted || !isName name then failReading "Bad for loop variable"
    lookFor afterLines
    let words ← match ← readToken nested with
      | .keyword "in" => do
        let (words, token) ← readWords nested mostNameLength []
        if token ≠ .line && token ≠ .semicolon then unexpected none
        pure words
      | .semicolon => pure allArguments
      | _ => do
        readAgain
        pure allArguments
    lookFor afterLines
    expect nested (.keyword "do")
    return .each line (String.ofList name) words (← read (.list false false))
  | none => failReading "Bad for loop variable"

/-- The patterns of a case, up to the parenthesis behind them; the last word read is the first. -/
def readPatterns (nested : Nested) : Nat → List Word → Reading (List Word)
  | 0, patterns => return patterns.reverse
  | limit + 1, patterns => do
    let patterns := (← get).word :: patterns
    match ← readToken nested with
    | .bar =>
      let _ ← readToken nested
      readPatterns nested limit patterns
    | .closing => return patterns.reverse
    | _ => unexpected (some .closing)

def readCases (read : Reader) (nested : Nested) :
    Nat → List (List Word × Command) → Reading (List (List Word × Command))
  | 0, cases => return cases.reverse
  | limit + 1, cases => do
    lookFor { skipsLines := true, keywords := true }
    let token ← readToken nested
    if token = .keyword "esac" then return cases.reverse
    if token = .opening then
      let _ ← readToken nested
    let patterns ← readPatterns nested mostNameLength []
    let body ← read (.list false true)
    lookFor { skipsLines := true, keywords := true }
    match ← readToken nested with
    | .caseEnd => readCases read nested limit ((patterns, body) :: cases)
    | .keyword "esac" => return ((patterns, body) :: cases).reverse
    | _ => unexpected (some .caseEnd)

def readChoice (read : Reader) (nested : Nested) (line : Nat) : Reading Command := do
  expect nested .word
  let subject := (← get).word
  lookFor afterLines
  expect nested (.keyword "in")
  return .choice line subject (← readCases read nested mostNameLength [])

/-- A command, compound ones with what ends them and the redirections behind it. -/
def readCommand (read : Reader) (nested : Nested) : Reading Command := do
  let line := (← get).line
  let closing (token : Token) (body : Reading Command) : Reading (Option Command) := do
    let c ← body
    expect nested token
    return some c
  let compound : Option Command ← match ← readToken nested with
    | .keyword "if" => closing (.keyword "fi") (readBranch read nested mostNameLength)
    | .keyword "while" => closing (.keyword "done") (readLoop read nested false)
    | .keyword "until" => closing (.keyword "done") (readLoop read nested true)
    | .keyword "for" => closing (.keyword "done") (readEach read nested line)
    | .keyword "case" => some <$> readChoice read nested line
    | .opening =>
      closing .closing (do return .subshell line (← read (.list false false)) [])
    | .keyword "\x7b" => closing (.keyword "\x7d") (read (.list false false))
    | .word => pure none
    | .redirect => pure none
    | _ => unexpected none
  match compound with
  | none =>
    readAgain
    readSimple read nested mostNameLength { line := (← get).line }
  | some c =>
    lookFor { keywords := true, aliases := true }
    let redirects ← readRedirects nested mostNameLength []
    return match c, redirects with
      | c, [] => c
      | .subshell line body _, redirects => .subshell line body redirects
      | c, redirects => .redirected line c redirects

def readStages (read : Reader) (nested : Nested) : Nat → List Command → Reading (List Command)
  | 0, stages => return stages.reverse
  | limit + 1, stages => do
    if (← readToken nested) = .bar then
      lookFor afterLines
      readStages read nested limit ((← read .command) :: stages)
    else
      readAgain
      return stages.reverse

def readPipeline (read : Reader) (nested : Nested) : Reading Command := do
  let isNegated := (← readToken nested) = .keyword "!"
  if isNegated then lookFor { keywords := true, aliases := true } else readAgain
  let c ← match ← readStages read nested mostNameLength [← read .command] with
    | [single] => pure single
    | stages => pure (.pipeline stages)
  return if isNegated then .negation c else c

def readChain (read : Reader) (nested : Nested) : Nat → Command → Reading Command
  | 0, first => return first
  | limit + 1, first => do
    match ← readToken nested with
    | .both =>
      lookFor afterLines
      readChain read nested limit (.andThen first (← read .pipeline))
    | .either =>
      lookFor afterLines
      readChain read nested limit (.orElse first (← read .pipeline))
    | _ =>
      readAgain
      return first

/-- A command that is not waited for. -/
def inBackground : Command → Command
  | .redirected line body redirects => .background line body redirects
  | c => .background 0 c []

/-- Commands that follow one another. A list of one line ends with the line; any other passes over
line ends, and stands before a token that ends it. -/
def readList (read : Reader) (nested : Nested) (isLine : Bool) :
    Nat → Bool → Command → Reading Command
  | 0, _, _ => failReading "too many commands"
  | limit + 1, mayEnd, before => do
    let joined (c : Command) : Command := match before with
      | .nothing => c
      | _ => .next before c
    lookFor { skipsLines := !isLine, keywords := true, aliases := true }
    match ← readToken nested with
    | .line =>
      readDocuments nested
      return before
    | .ending =>
      readDocuments nested
      modify fun s => { s with token := .ending, isAgain := true }
      return before
    | token =>
      readAgain
      if mayEnd && !isLine && token.endsList then return before
      let c ← read .chain
      match ← readToken nested with
      | .ampersand => readList read nested isLine limit true (joined (inBackground c))
      | .semicolon => readList read nested isLine limit true (joined c)
      | .line =>
        readAgain
        readList read nested isLine limit true (joined c)
      | .ending =>
        readDocuments nested
        modify fun s => { s with token := .ending, isAgain := true }
        return joined c
      | _ =>
        if isLine then unexpected none
        readAgain
        return joined c

/-- The parenthesis behind a list of commands, which the list has met but left to be read. -/
def endParenthesis : Reading Unit := do
  let s ← get
  if s.isAgain && s.token = .closing then set { s with isAgain := false }
  else unexpected (some .closing)

/-- How the commands of substitutions are read. -/
def nestedBy (read : Reader) : Nested where
  toEnd := read (.list false true)
  toParenthesis := do
    let c ← read (.list false true)
    endParenthesis
    return c

/-- Reads what a goal asks for. The number bounds how deep commands stand within commands. -/
def read : Nat → Reader
  | 0, _ => failReading "commands too deep"
  | depth + 1, goal =>
    let nested := nestedBy (read depth)
    match goal with
    | .list isLine mayBeEmpty =>
      readList (read depth) nested isLine mostNameLength mayBeEmpty .nothing
    | .chain => do readChain (read depth) nested mostNameLength (← read depth .pipeline)
    | .pipeline => readPipeline (read depth) nested
    | .command => readCommand (read depth) nested

/-- How deep commands may stand within commands. -/
def readDepth : Nat := 40000

/-- Reads the commands of the next line, if there are any more. -/
def readLine : Reading (Option Command) := do
  modify fun s => { s with lookout := {}, isAgain := false, awaited := [] }
  let c ← read readDepth (.list true false)
  let s ← get
  match c with
  | .nothing => return if s.token = .ending then none else some c
  | _ => return some c

/-- The word that a text is between double quotes, if it can be read. -/
def readPrompt (text : String) : Option Word :=
  let level : Level := { quoting := .double, isDouble := true }
  let reading : Reading Word := do
    let (w, _) ← readParts (nestedBy (read readDepth)) none mostTextLength false (← getJoined)
      { level, inDocument := true }
    checkClosed w
    return w.parts.reverse
  match reading.run (Source.ofText text.toList) with
  | .ok (word, _) => some word
  | .error _ => none

end NestedShell.Host.Script
