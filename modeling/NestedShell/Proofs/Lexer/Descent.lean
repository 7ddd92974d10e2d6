import NestedShell.Proofs.Lexer.Turn

/-! The grammar of command lines read by descent: one function for each construct, which says what
the construct contributes to the word around it and where the text goes on. The lexer queues
exactly the events of this reading. -/
namespace NestedShell.Lexer.Descent

/-- The text that a construct contributes, the errors met in it, and the text behind it. There is
nothing behind it when the text ends inside. -/
structure Part where
  text : String := ""
  errors : List Event := []
  rest : Option (List Char)

def Part.before (p q : Part) : Part :=
  { text := p.text ++ q.text, errors := p.errors ++ q.errors, rest := q.rest }

/-- The text before the first `q`, and the text behind it. -/
def upTo (q : Char) : List Char → Option (List Char × List Char)
  | [] => none
  | c :: cs =>
    if c = q then some ([], cs) else (upTo q cs).map fun cut => (c :: cut.1, cut.2)

/-- The letters that stand for another character behind a backslash. -/
def escapes : List (Char × Char) := [('r', '\r'), ('n', '\n'), ('t', '\t'), ('b', '\x08')]

/-- What stands up to the next single quote. -/
def literal (cs : List Char) : Part :=
  match upTo '\'' cs with
  | none => { rest := none }
  | some (body, rest) => { text := .ofList body, rest := some rest }

@[simp] theorem errors_literal (cs : List Char) : (literal cs).errors = [] := by
  unfold literal
  split <;> rfl

variable (value : String → Option String)

/-- What stands behind a `$`: a name in braces, the longest run of name characters, or nothing that
belongs to it. -/
def reference : List Char → Part
  | '\x7b' :: cs =>
    match upTo '\x7d' cs with
    | none => { rest := none }
    | some (body, rest) =>
      if isValidName (.ofList body) then
        { text := (value (.ofList body)).getD "", rest := some rest }
      else
        { errors := [.error (.expansion (.ofList body) .badSubstitution)], rest := some rest }
  | cs =>
    match cs.takeWhile isNameChar with
    | [] => { text := "$", rest := some cs }
    | name => { text := (value (.ofList name)).getD "", rest := some (cs.dropWhile isNameChar) }

theorem reference_of_ne_brace {c : Char} (hc : c ≠ '\x7b') (cs : List Char) :
    reference value (c :: cs) =
      if isNameChar c then
        { text := (value (.ofList (c :: cs.takeWhile isNameChar))).getD ""
          rest := some (cs.dropWhile isNameChar) }
      else { text := "$", rest := some (c :: cs) } := by
  rw [reference.eq_2 _ _ (by simp [hc])]
  by_cases hn : isNameChar c <;> simp [hn]

/-- An escaped character, a reference, or a character that stands for itself. -/
def item (c : Char) (cs : List Char) : Part :=
  if c = '\\' then
    match cs with
    | [] => { rest := none }
    | e :: rest => { text := .singleton ((escapes.lookup e).getD e), rest := some rest }
  else if c = '$' then reference value cs
  else { text := .singleton c, rest := some cs }

/-- An item between double quotes; single quotes are kept there with what they enclose. -/
def quotedItem (c : Char) (cs : List Char) : Part :=
  if c = '\'' then { literal cs with text := "'" ++ (literal cs).text ++ "'" } else item value c cs

theorem length_upTo_lt {q : Char} {cs body rest : List Char} (h : upTo q cs = some (body, rest)) :
    rest.length < cs.length := by
  induction cs generalizing body with
  | nil => simp [upTo] at h
  | cons c cs ih =>
    simp only [upTo] at h
    split at h
    · simp only [Option.some.injEq, Prod.mk.injEq] at h
      obtain ⟨-, rfl⟩ := h
      simp
    · obtain ⟨⟨b, r⟩, hb, hr⟩ := Option.map_eq_some_iff.mp h
      simp only [Prod.mk.injEq] at hr
      obtain ⟨-, rfl⟩ := hr
      have := ih hb
      simp only [List.length_cons]
      omega

theorem length_rest_literal {cs rest : List Char} (h : (literal cs).rest = some rest) :
    rest.length ≤ cs.length := by
  unfold literal at h
  split at h
  · simp at h
  · rename_i body rest' hcut
    simp only [Option.some.injEq] at h
    subst h
    exact Nat.le_of_lt (length_upTo_lt hcut)

theorem length_rest_reference {cs rest : List Char} (h : (reference value cs).rest = some rest) :
    rest.length ≤ cs.length := by
  unfold reference at h
  split at h
  · split at h
    · simp at h
    · rename_i body rest' hcut
      have hlt := length_upTo_lt hcut
      split at h <;> simp only [Option.some.injEq] at h <;> subst h <;> simp only [List.length_cons]
        <;> omega
  · split at h <;> simp only [Option.some.injEq] at h <;> subst h
    · exact Nat.le_refl _
    · exact (List.dropWhile_sublist _).length_le

theorem length_rest_item {c : Char} {cs rest : List Char} (h : (item value c cs).rest = some rest) :
    rest.length ≤ cs.length := by
  unfold item at h
  split at h
  · split at h
    · simp at h
    · simp only [Option.some.injEq] at h
      simp [← h]
  · split at h
    · exact length_rest_reference value h
    · simp only [Option.some.injEq] at h
      simp [h]

theorem length_rest_quotedItem {c : Char} {cs rest : List Char}
    (h : (quotedItem value c cs).rest = some rest) : rest.length ≤ cs.length := by
  unfold quotedItem at h
  split at h
  · exact length_rest_literal h
  · exact length_rest_item value h

/-- What stands up to the double quote that closes. -/
def doubleQuoted : List Char → Part
  | [] => { rest := none }
  | c :: cs =>
    if c = '"' then { rest := some cs }
    else
      match _h : (quotedItem value c cs).rest with
      | none => quotedItem value c cs
      | some rest => (quotedItem value c cs).before (doubleQuoted rest)
termination_by cs => cs.length
decreasing_by exact Nat.lt_succ_of_le (length_rest_quotedItem value _h)

section
variable {c : Char} {cs rest : List Char} (hc : c ≠ '"')
include hc

theorem doubleQuoted_of_none (h : (quotedItem value c cs).rest = none) :
    doubleQuoted value (c :: cs) = quotedItem value c cs := by
  rw [doubleQuoted, if_neg hc]
  split <;> simp_all

theorem doubleQuoted_of_some (h : (quotedItem value c cs).rest = some rest) :
    doubleQuoted value (c :: cs) = (quotedItem value c cs).before (doubleQuoted value rest) := by
  rw [doubleQuoted, if_neg hc]
  split <;> simp_all

end

theorem length_rest_doubleQuoted {cs rest : List Char}
    (h : (doubleQuoted value cs).rest = some rest) : rest.length ≤ cs.length := by
  induction cs using doubleQuoted.induct value with
  | case1 => simp [doubleQuoted] at h
  | case2 cs =>
    simp only [doubleQuoted, if_true, Option.some.injEq] at h
    simp [h]
  | case3 c cs hc hrest =>
    rw [doubleQuoted_of_none value hc hrest, hrest] at h
    simp at h
  | case4 c cs hc next hrest ih =>
    rw [doubleQuoted_of_some value hc hrest] at h
    have hle := length_rest_quotedItem value hrest
    have hih := ih h
    simp only [List.length_cons]
    omega

/-- What a character that is no blank and ends no statement begins. -/
def part (c : Char) (cs : List Char) : Part :=
  if c = '\'' then literal cs else if c = '"' then doubleQuoted value cs else item value c cs

theorem length_rest_part {c : Char} {cs rest : List Char} (h : (part value c cs).rest = some rest) :
    rest.length ≤ cs.length := by
  unfold part at h
  split at h
  · exact length_rest_literal h
  · split at h
    · exact length_rest_doubleQuoted value h
    · exact length_rest_item value h

/-- A word without text is a word only behind a closing quote. -/
def broken (word : String) : List String := if word = "" then [] else [word]

def statement (words : List String) : List Event := if words = [] then [] else [.statement words]

/-- The events of a text, where `words` have been read of a statement and `word` is begun. -/
def events (word : String) (words : List String) : List Char → List Event
  | [] => []
  | c :: cs =>
    if c = ' ' ∨ c = '\t' then events "" (words ++ broken word) cs
    else if c = ';' ∨ c = '\n' then statement (words ++ broken word) ++ events "" [] cs
    else
      (part value c cs).errors ++
        match _h : (part value c cs).rest with
        | none => []
        | some rest =>
          if c = '\'' ∨ c = '"' then events "" (words ++ [word ++ (part value c cs).text]) rest
          else events (word ++ (part value c cs).text) words rest
termination_by cs => cs.length
decreasing_by
  · simp
  · simp
  · exact Nat.lt_succ_of_le (length_rest_part value _h)
  · exact Nat.lt_succ_of_le (length_rest_part value _h)

theorem events_of_part {c : Char} (hblank : ¬(c = ' ' ∨ c = '\t')) (hend : ¬(c = ';' ∨ c = '\n'))
    (word : String) (words : List String) (cs : List Char) :
    events value word words (c :: cs) = (part value c cs).errors ++
      match (part value c cs).rest with
      | none => []
      | some rest =>
        if c = '\'' ∨ c = '"' then events value "" (words ++ [word ++ (part value c cs).text]) rest
        else events value (word ++ (part value c cs).text) words rest := by
  rw [events, if_neg hblank, if_neg hend]
  split <;> simp_all

end NestedShell.Lexer.Descent
