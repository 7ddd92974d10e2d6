import NestedShell.Proofs.Lexer.Misread
import NestedShell.Proofs.Lexer.Reference
import NestedShell.Proofs.Variables.Pieces

/-! The lexer's own expansion of references and the expansion of a whole text at once: between
double quotes both take the same references, the same names and the same dollar signs. -/
namespace NestedShell.Lexer

/-- What does not stand for itself between double quotes, references aside. -/
def quoteMarks : List Char := ['\\', '"', '\'']

/-- An error has come about, or the text is still taken for a name in braces. -/
def Spoilt (l : Lexer) : Prop := (∃ x, .error x ∈ l.draft.events) ∨ l.mode = .varBracedInDouble

theorem spoilt_feedChars_of_error (vars : Lookup) (cs : List Char) (m : Mode) {d : Draft}
    {x : LexError} (hx : .error x ∈ d.events) : Spoilt ((inMode m d).feedChars vars cs) := by
  obtain ⟨m', e, hread, -, hevents, -⟩ := feedChars_grows vars cs m d
  exact hread ▸ .inl ⟨x, hevents.subset hx⟩

theorem Spoilt.not_ok {l : Lexer} (h : Spoilt l) (hl : l.isComplete)
    (statements : List (List String)) :
    Lexer.statements l.draft.events.reverse ≠ .ok statements := by
  rcases h with ⟨x, hx⟩ | hmode
  · intro hok
    rw [← List.mem_reverse, eq_map_of_statements hok] at hx
    simp at hx
  · obtain ⟨⟨m, stack⟩, d⟩ := l
    cases hmode
    simp [isComplete, Cursor.isHome] at hl

theorem feedChars_between (vars : Lookup) {c : Char} (hc : c ≠ '$') (hmark : c ∉ quoteMarks)
    (d : Draft) (cs : List Char) : (inMode .doubleQuote d).feedChars vars (c :: cs) =
      (inMode .doubleQuote (d.add (.singleton c))).feedChars vars cs := by
  have hne : c ≠ '\\' ∧ c ≠ '"' ∧ c ≠ '\'' := by simpa [quoteMarks] using hmark
  simp [feedChar_inMode, Mode.turn, Mode.endsName, Mode.step, hc, hne]

/-- A text that is closed by a double quote goes on with a character that is no part of a name
wherever the text itself does. -/
theorem exists_cons_append_quote {p : Char → Prop} {cs : List Char} (hcs : ∀ c ∈ cs.head?, p c)
    (hquote : p '"') (tail : List Char) : ∃ c rest, cs ++ '"' :: tail = c :: rest ∧ p c := by
  cases cs with
  | nil => exact ⟨'"', tail, rfl, hquote⟩
  | cons c cs => exact ⟨c, cs ++ '"' :: tail, rfl, hcs c rfl⟩

section
variable (vars : Variables) {tail : List Char} (htail : '\x7d' ∉ tail)
include htail

/-- Up to the closing quote the word grows by the text as it is expanded at once, unless a brace
stands in the way. -/
theorem feedChars_pieces {cs : List Char} (h : Pieces cs) (hcs : ∀ c ∈ cs, c ∉ quoteMarks)
    {d : Draft} (hd : d.name = "") :
    let l := (inMode .doubleQuote d).feedChars vars.lookup (cs ++ '"' :: tail)
    (WellBraced cs → l = (inMode .bare (d.add (.ofList
      (expandFrom (fun name => vars.value name) true 0 cs))).endWord).feedChars vars.lookup tail) ∧
      (¬WellBraced cs → Spoilt l) := by
  intro l
  induction h generalizing d with
  | done =>
    refine ⟨fun _ => ?_, fun h => absurd wellBraced_nil h⟩
    have hclose := feedChar_inMode vars.lookup '"' .doubleQuote d
    simp only [Mode.turn, Mode.endsName, Mode.step] at hclose
    simp [l, hclose, expandFrom]
  | @char c cs hc _ ih =>
    have hread := feedChars_between vars.lookup hc (hcs c (by simp)) d (cs ++ '"' :: tail)
    rw [wellBraced_cons_iff (.inl hc), expandFrom_char _ _ hc, String.ofList_cons, ← Draft.add_add]
    simp only [l, List.cons_append, hread]
    exact ih (fun e he => hcs e (by simp [he])) hd
  | @dollar cs hhead _ ih =>
    obtain ⟨e, rest, hrest, he, hbrace⟩ := exists_cons_append_quote hhead (by decide) tail
    have hread := Surroundings.doubleQuoted.feedChars_dollar vars.lookup hd he hbrace rest
    rw [wellBraced_cons_iff (.inr fun hb => (hhead _ hb).2 rfl), expandFrom_dollar _ _ hhead,
      String.ofList_cons, ← Draft.add_add]
    simp only [l, List.cons_append, hrest]
    rw [← hrest] at hread ⊢
    exact hread ▸ ih (fun e he => hcs e (by simp [he])) hd
  | @named name cs hne hname hhead _ ih =>
    obtain ⟨e, rest, hrest, he⟩ := exists_cons_append_quote hhead (by decide) tail
    have hread := Surroundings.doubleQuoted.feedChars_named vars.lookup hd hne hname he rest
    rw [wellBraced_named_iff hne hname, expandFrom_named _ _ hne hname hhead, String.ofList_append,
      ← Draft.add_add]
    simp only [l, List.cons_append, List.append_assoc]
    rw [← hrest] at hread
    rw [String.ofList_toList]
    exact hread ▸ ih (fun e he => hcs e (by simp [he])) hd
  | @braced body cs hbody _ ih =>
    have hread : l = (inMode .doubleQuote (d.referBraced vars.lookup (.ofList body))).feedChars
        vars.lookup (cs ++ '"' :: tail) := by
      have hbraced := Surroundings.doubleQuoted.feedChars_braced vars.lookup hd hbody
      rw [← Surroundings.home, ← hbraced, ← feedChars_append]
      simp [l, Surroundings.home]
    rw [wellBraced_braced_iff hbody]
    by_cases hvalid : isValidName (.ofList body)
    · rw [Draft.referBraced, if_pos hvalid] at hread
      rw [expandFrom_braced _ hbody, String.ofList_append, ← Draft.add_add, String.ofList_toList,
        and_iff_right hvalid, hread]
      exact ih (fun e he => hcs e (by simp [he])) hd
    · refine ⟨fun h => absurd h.1 hvalid, fun _ => ?_⟩
      rw [Draft.referBraced, if_neg hvalid] at hread
      rw [hread]
      exact spoilt_feedChars_of_error vars.lookup _ _ List.mem_cons_self
  | @unclosed body hbody =>
    refine ⟨fun h => absurd h (not_wellBraced_unclosed hbody), fun _ => .inr ?_⟩
    have hunclosed : '\x7d' ∉ body ++ '"' :: tail := by simp [hbody, htail]
    have hopen := Surroundings.doubleQuoted.feedChars_openBrace vars.lookup (d := d) hunclosed
    exact congrArg Lexer.mode hopen

end

/-- Over every source of variables a text without quotes and escapes that is put in double quotes
is accepted exactly when its braces are in order, and it is then read as one word, the text as it
is expanded at once. -/
theorem split_doubleQuoted_iff (vars : Variables) (text : String)
    (htext : ∀ c ∈ text.toList, c ∉ quoteMarks) (l : Lexer) (statements : List (List String)) :
    (l.split vars.lookup ("\"" ++ text ++ "\"")).1 = .ok statements ↔
      WellBraced text.toList ∧ statements = [[vars.expand text]] := by
  have hopen : (inMode .bare {}).feedChar vars.lookup '"' = inMode .doubleQuote {} :=
    feedChar_inMode vars.lookup '"' .bare {}
  have hfeed : l.reset.feedChars vars.lookup (("\"" ++ text ++ "\"").push '\n').toList =
      (inMode .doubleQuote {}).feedChars vars.lookup (text.toList ++ '"' :: ['\n']) := by
    rw [← hopen]
    simp [Lexer.reset, inMode]
  have htail : '\x7d' ∉ ['\n'] := by simp
  obtain ⟨hreads, hspoils⟩ := feedChars_pieces vars htail (pieces text.toList) htext (d := {}) rfl
  simp only [split, feed, takeEvents, hfeed]
  by_cases hbraced : WellBraced text.toList
  · have hend : (Draft.endWord (Draft.add (vars.expand text) {})).endStatement =
        { events := [.statement [vars.expand text]] } := by
      simp [Draft.endWord, Draft.endStatement, Draft.breakWord, Draft.add, Draft.queue]
    rw [Variables.expand] at hend
    rw [hreads hbraced, feedChars_cons, feedChar_inMode, Mode.turn_terminator (.inr rfl), hend,
      ← Variables.expand]
    have hone : Lexer.statements [.statement [vars.expand text]] = .ok [[vars.expand text]] := rfl
    simp only [inMode, isComplete, Cursor.isHome, hbraced, true_and]
    simp [hone]
    exact eq_comm
  · refine iff_of_false ?_ (fun h => hbraced h.1)
    split
    · rename_i hcomplete
      exact (hspoils hbraced).not_ok hcomplete statements
    · simp

/-- A value is not read again, whatever dollar signs it holds, and names are as long as they can be
unless braces end them. -/
theorem split_doubleQuoted_iff_dollars :
    let vars := Variables.ofPairs [("A", "$B"), ("B", "x y"), ("AB", "?")]
    let text := "$A$\x7bB\x7d$AB$$ $"
    (∀ c ∈ text.toList, c ∉ quoteMarks) ∧
      (({} : Lexer).split vars.lookup ("\"" ++ text ++ "\"")).1 = .ok [["$Bx y?$$ $"]] ∧
      WellBraced text.toList ∧ [["$Bx y?$$ $"]] = [[vars.expand text]] := by
  intro vars text
  have htext : ∀ c ∈ text.toList, c ∉ quoteMarks := by simp [text, quoteMarks]
  have hsplit : (({} : Lexer).split vars.lookup ("\"" ++ text ++ "\"")).1 =
      .ok [["$Bx y?$$ $"]] := by
    decide +kernel
  exact ⟨htext, hsplit, (split_doubleQuoted_iff vars text htext {} _).mp hsplit⟩

end NestedShell.Lexer
