import NestedShell.Lexer.Quote
import NestedShell.Proofs.Lexer.Turn

/-! Words written by `join` are read back as they were, whatever they hold and whatever the
variables are: quoting is undone by reading. -/
namespace NestedShell.Lexer

theorem turn_of_isPlain (vars : Lookup) {c : Char} (h : isPlain c) (d : Draft) :
    Mode.bare.turn vars c d = (.bare, d.add (.singleton c)) := by
  have hne : ∀ e ∈ ['$', '"', '\'', '\\', ';', '\n', ' ', '\t'], c ≠ e := by
    rintro e he rfl
    simp only [List.mem_cons, List.not_mem_nil, or_false] at he
    rcases he with rfl | rfl | rfl | rfl | rfl | rfl | rfl | rfl <;> revert h <;> decide
  simp_all [Mode.turn, Mode.endsName, Mode.step]

theorem feedChars_plain (vars : Lookup) (cs : List Char) (h : ∀ c ∈ cs, isPlain c) (d : Draft) :
    (inMode .bare d).feedChars vars cs = inMode .bare (d.add (String.ofList cs)) := by
  induction cs generalizing d with
  | nil => simp
  | cons c cs ih =>
    have hc := turn_of_isPlain vars (h c (by simp)) d
    rw [feedChars_cons, feedChar_inMode, hc, ih (fun e he => h e (by simp [he])), Draft.add_add,
      String.ofList_cons]

/-- A character with the backslash it needs stands for itself between double quotes. -/
theorem feedChars_escapeQuoted (vars : Lookup) (c : Char) (d : Draft) :
    (inMode .doubleQuote d).feedChars vars (escapeQuoted c) =
      inMode .doubleQuote (d.add (.singleton c)) := by
  by_cases h : needsEscape c
  · have hc : unescape c = c := by
      simp only [needsEscape, Bool.or_eq_true, beq_iff_eq] at h
      rcases h with ((rfl | rfl) | rfl) | rfl <;> rfl
    simp [escapeQuoted, h, feedChar_inMode, Mode.turn, Mode.endsName, Mode.step, hc]
  · have hne : c ≠ '\\' ∧ c ≠ '"' ∧ c ≠ '$' ∧ c ≠ '\'' := by simpa [needsEscape, and_assoc] using h
    simp [escapeQuoted, h, feedChar_inMode, Mode.turn, Mode.endsName, Mode.step, hne]

theorem feedChars_escaped (vars : Lookup) (cs : List Char) (d : Draft) :
    (inMode .doubleQuote d).feedChars vars (cs.flatMap escapeQuoted) =
      inMode .doubleQuote (d.add (String.ofList cs)) := by
  induction cs generalizing d with
  | nil => simp
  | cons c cs ih =>
    rw [List.flatMap_cons, feedChars_append, feedChars_escapeQuoted, ih, Draft.add_add,
      String.ofList_cons]

/-- A written word goes on with the word begun. It is then begun itself or, when it is quoted,
already ended; its break makes no difference between the two. -/
theorem feedChars_quote (vars : Lookup) (word : String) (d : Draft) :
    ∃ e : Draft, (inMode .bare d).feedChars vars (quote word).toList = inMode .bare e ∧
      e.breakWord = (d.add word).endWord := by
  by_cases h : !word.isEmpty && word.toList.all isPlain
  · have hw : word.isEmpty = false ∧ ∀ c ∈ word.toList, isPlain c := by simpa using h
    refine ⟨d.add word, ?_, ?_⟩
    · rw [quote, if_pos h, feedChars_plain vars _ hw.2, String.ofList_toList]
    · have hne : word ≠ "" := String.isEmpty_eq_false_iff.mp hw.1
      simp [Draft.breakWord, Draft.add, hne]
  · refine ⟨(d.add word).endWord, ?_, ?_⟩
    · have hopen := feedChar_inMode vars '"' .bare d
      have hclose := feedChar_inMode vars '"' .doubleQuote (d.add word)
      simp only [Mode.turn, Mode.endsName, Mode.step] at hopen hclose
      rw [quote, if_neg h, String.toList_ofList, List.cons_append, feedChars_cons, feedChars_append]
      simp [hopen, hclose, feedChars_escaped]
    · simp [Draft.breakWord, Draft.endWord]

theorem feedChar_blank (vars : Lookup) (d : Draft) :
    (inMode .bare d).feedChar vars ' ' = inMode .bare d.breakWord := by
  rw [feedChar_inMode, Mode.turn_blank (.inl rfl)]

/-- Of written words only the first goes on with the word begun. -/
theorem feedChars_join (vars : Lookup) (word : String) (words : List String) (d : Draft) :
    ∃ e : Draft, (inMode .bare d).feedChars vars (join (word :: words)).toList = inMode .bare e ∧
      e.breakWord = { (d.add word).endWord with
        words := words.reverse ++ (d.add word).endWord.words } := by
  induction words generalizing word d with
  | nil =>
    obtain ⟨e, hread, hbreak⟩ := feedChars_quote vars word d
    exact ⟨e, by simpa [join] using hread, hbreak⟩
  | cons next words ih =>
    obtain ⟨e, hread, hbreak⟩ := feedChars_quote vars word d
    obtain ⟨f, htail, hwords⟩ := ih next e.breakWord
    refine ⟨f, ?_, ?_⟩
    · have hjoin : (join (word :: next :: words)).toList =
          (quote word).toList ++ ' ' :: (join (next :: words)).toList := by
        simp [join, String.intercalate_cons_cons]
      rw [hjoin, feedChars_append, hread, feedChars_cons, feedChar_blank, htail]
    · simp [hwords, hbreak, Draft.endWord, Draft.add]

/-- What may stand between two statements. -/
inductive Separator where
  | semicolon
  | lineFeed

def Separator.char : Separator → Char
  | semicolon => ';'
  | lineFeed => '\n'

/-- Statements written one behind the other, with a separator between each two. -/
def script (separator : ℕ → Separator) : List (List String) → String
  | [] => ""
  | [words] => join words
  | words :: rest =>
    join words ++ String.singleton (separator 0).char ++ script (fun i => separator (i + 1)) rest

theorem feedChar_separator (vars : Lookup) (s : Separator) (d : Draft) :
    (inMode .bare d).feedChar vars s.char = inMode .bare d.endStatement := by
  have hs : s.char = ';' ∨ s.char = '\n' := by cases s <;> simp [Separator.char]
  rw [feedChar_inMode, Mode.turn_terminator hs]

/-- A written statement and a separator bring about that statement and leave nothing begun. -/
theorem feedChars_join_separator (vars : Lookup) (words : List String) (hne : words ≠ [])
    (s : Separator) (events : List Event) :
    (inMode .bare { events }).feedChars vars ((join words).toList ++ [s.char]) =
      inMode .bare { events := .statement words :: events } := by
  obtain ⟨word, words, rfl⟩ := List.exists_cons_of_ne_nil hne
  obtain ⟨e, hread, hbreak⟩ := feedChars_join vars word words { events }
  rw [feedChars_append, hread, feedChars_cons, feedChar_separator, feedChars_nil]
  simp [Draft.endStatement, hbreak, Draft.endWord, Draft.add, Draft.queue]

theorem feedChars_script (vars : Lookup) (separator : ℕ → Separator)
    (statements : List (List String)) (hne : ∀ words ∈ statements, words ≠ [])
    (events : List Event) :
    (inMode .bare { events }).feedChars vars ((script separator statements).push '\n').toList =
      inMode .bare { events := (statements.map .statement).reverse ++ events } := by
  induction statements generalizing separator events with
  | nil =>
    have hend := feedChar_separator vars .lineFeed { events }
    simpa [script, Separator.char, Draft.endStatement, Draft.breakWord] using hend
  | cons words rest ih =>
    have hwords := feedChars_join_separator vars words (hne words (by simp))
    cases rest with
    | nil => simpa [script, Separator.char] using hwords .lineFeed events
    | cons next rest =>
      have hrest := ih (fun i => separator (i + 1)) (fun ws h => hne ws (by simp [h]))
        (.statement words :: events)
      have htext : ((script separator (words :: next :: rest)).push '\n').toList =
          ((join words).toList ++ [(separator 0).char]) ++
            ((script (fun i => separator (i + 1)) (next :: rest)).push '\n').toList := by
        simp [script]
      rw [htext, feedChars_append, hwords, hrest]
      simp

theorem statements_map_statement (statements : List (List String)) :
    Lexer.statements (statements.map .statement) = .ok statements := by
  induction statements with
  | nil => rfl
  | cons words rest ih => simp [Lexer.statements, ih, Except.map]

/-- Statements that have been written out are split into the same statements again. The words may
hold anything, the variables may be anything and may refuse every question, and the lexer may
have been left in the middle of something. -/
theorem split_script (vars : Lookup) (separator : ℕ → Separator) (statements : List (List String))
    (hne : ∀ words ∈ statements, words ≠ []) (l : Lexer) :
    l.split vars (script separator statements) = (.ok statements, {}) := by
  have hfeed : l.reset.feedChars vars ((script separator statements).push '\n').toList =
      inMode .bare { events := (statements.map .statement).reverse } := by
    have h := feedChars_script vars separator statements hne []
    rw [List.append_nil] at h
    exact h
  simp only [split, feed, hfeed, takeEvents]
  simp [inMode, isComplete, Cursor.isHome, statements_map_statement]

/-- A lexer left in a braced name reads back words of every kind, whoever looks after the
variables. -/
theorem split_script_of_awkward_words :
    (∀ words ∈ [["echo", "", "a b"], ["$x'y", "\"\\;\n"], ["ls"]], words ≠ []) ∧
      ((inMode .varBraced { name := "open" }).split Lookup.busy
        (script (fun i => if i = 0 then .lineFeed else .semicolon)
          [["echo", "", "a b"], ["$x'y", "\"\\;\n"], ["ls"]])) =
        (.ok [["echo", "", "a b"], ["$x'y", "\"\\;\n"], ["ls"]], {}) :=
  ⟨by simp, split_script _ _ _ (by simp) _⟩

end NestedShell.Lexer
