import NestedShell.Proofs.Lexer.Split
import NestedShell.Proofs.Standard.Variables

/-! Which of the variables that can be exported a quoted reference gives back: those with a valid
name, though others can be exported too. -/
namespace NestedShell

namespace Lexer
variable {v w : Lookup}

/-- Only valid names are looked up. -/
theorem Settled.feedChars_congr (hvw : ∀ name, isValidName name → v name = w name) {l : Lexer}
    (h : Settled l) (cs : List Char) : l.feedChars v cs = l.feedChars w cs := by
  induction cs generalizing l with
  | nil => rfl
  | cons c cs ih =>
    obtain ⟨asked, hvalid, hread⟩ := (h.advances c).asks
    have hchar : l.feedChar v c = l.feedChar w c :=
      hread v w fun name hname => hvw name (hvalid name hname)
    rw [feedChars_cons, feedChars_cons, hchar, ih (h.feedChar w c)]

theorem split_congr (hvw : ∀ name, isValidName name → v name = w name) (text : String) (l : Lexer) :
    l.split v text = l.split w text := by
  have hread := settled_empty.feedChars_congr hvw (text.push '\n').toList
  have hfeed : ({} : Lexer).feed v (text.push '\n') = ({} : Lexer).feed w (text.push '\n') := by
    rw [feed, feed, hread]
  unfold split reset
  rw [hfeed]

theorem split_quotedReference (vars : Lookup) {name : String} (hbrace : '\x7d' ∉ name.toList)
    (l : Lexer) : (l.split vars (quotedReference name)).1 =
      statements (({} : Draft).referBraced vars name).endWord.endStatement.events.reverse := by
  have hnew : (inMode .bare {} : Lexer) = {} := rfl
  have hread := feedChars_quoted vars hbrace (d := {}) rfl
  rw [hnew] at hread
  have hend := feedChar_separator vars .lineFeed (({} : Draft).referBraced vars name).endWord
  rw [Separator.char] at hend
  have hclosed : (({} : Lexer).feed vars (quotedReference name)).2.mode ∈ Mode.closed := by
    rw [feed, mode_takeEvents, hread, mode_inMode]
    decide
  rw [split_of_closed hclosed, feed, feedChars_line, hread, hend]
  rfl

end Lexer

namespace Variables
open Lexer (Draft quotedReference)

/-- The variable holds the value, and a quoted reference to it is read as one word, which is the
value. -/
def ReadsBack (name value : String) (vars : Variables) : Prop :=
  vars.get? name = some value ∧
    ∀ l : Lexer, (l.split vars.lookup (quotedReference name)).1 = .ok [[value]]

theorem readsBack_set {name : String} (h : isValidName name) (value : String) (vars : Variables) :
    (vars.set name value).ReadsBack name value := by
  refine ⟨by simp, fun l => ?_⟩
  have hbrace := not_mem_of_isValidName h (c := '\x7d') (by decide)
  have hword : ({} : Draft).referBraced (vars.set name value).lookup name =
      ({} : Draft).add value := by
    simp [Draft.referBraced, h, Draft.substitute, lookup]
  rw [Lexer.split_quotedReference _ hbrace, Lexer.statements_eq_ok_iff, hword]
  simp [Draft.add, Draft.endWord, Draft.endStatement, Draft.breakWord, Draft.queue]

theorem split_quotedReference_of_not_isValidName {name : String} (h : ¬isValidName name)
    (hbrace : '\x7d' ∉ name.toList) (vars : Variables) (l : Lexer) :
    (l.split vars.lookup (quotedReference name)).1 =
      .error (.expansion name .badSubstitution) := by
  rw [Lexer.split_quotedReference _ hbrace, Lexer.statements_eq_error_iff, Draft.referBraced,
    if_neg h]
  -- The quotes still make a word, which is empty.
  exact ⟨[], [.statement [""]], rfl⟩

/-- What is stored under a name that is not valid is never looked up, so that of two values one at
most is read back. -/
theorem isValidName_iff_readsBack (name : String) (vars : Variables) : isValidName name ↔
    ∀ value, (vars.assign name value).ReadsBack name (vars.expand value) := by
  refine ⟨fun h value => readsBack_set h _ vars, fun hreads => ?_⟩
  by_contra hname
  have hagree : ∀ other, isValidName other →
      (vars.set name "").lookup other = (vars.set name "x").lookup other := by
    intro other hother
    have hne : other ≠ name := by
      rintro rfl
      exact hname hother
    simp [lookup, hne]
  have hsplit : ({} : Lexer).split (vars.set name "").lookup (quotedReference name) =
      ({} : Lexer).split (vars.set name "x").lookup (quotedReference name) :=
    Lexer.split_congr hagree _ {}
  have hread : ∀ value, '$' ∉ value.toList →
      (({} : Lexer).split (vars.set name value).lookup (quotedReference name)).1 =
        .ok [[value]] := by
    intro value hvalue
    have hfound := (hreads value).2 {}
    rwa [assign, expand_of_no_dollar hvalue] at hfound
  have hempty := hread "" (by decide)
  rw [hsplit, hread "x" (by decide)] at hempty
  exact absurd hempty (by decide)

theorem exists_assignment {text : String} (h : '=' ∈ text.toList) :
    ∃ name value, text = name ++ "=" ++ value ∧ '=' ∉ name.toList := by
  obtain ⟨before, behind, htext, hbefore⟩ := List.eq_append_cons_of_mem h
  refine ⟨String.ofList before, String.ofList behind, ?_, by simpa using hbefore⟩
  rw [← String.toList_inj]
  simp [htext]

theorem exportAssignment_of_no_equals {text : String} (h : '=' ∉ text.toList) (vars : Variables) :
    vars.exportAssignment text = (vars, .error (.missingEquals text)) := by
  rw [exportAssignment, dropWhile_ne_eq_nil h]

theorem exportAssignment_of_no_name (value : String) (vars : Variables) :
    vars.exportAssignment ("" ++ "=" ++ value) = (vars, .error (.invalidName "")) := by
  simp [exportAssignment]

/-- An assignment is refused and nothing changes, or it is cut at its first `=` and made. -/
theorem exportAssignment_cases (text : String) (vars : Variables) :
    (∃ e, vars.exportAssignment text = (vars, .error e)) ∨
      ∃ name value, text = name ++ "=" ++ value ∧ '=' ∉ name.toList ∧ name ≠ "" ∧
        vars.exportAssignment text = (vars.assign name value, .ok name) := by
  by_cases hassigns : '=' ∈ text.toList
  · obtain ⟨name, value, rfl, hequals⟩ := exists_assignment hassigns
    by_cases hne : name = ""
    · exact .inl ⟨_, hne ▸ exportAssignment_of_no_name value vars⟩
    · exact .inr ⟨name, value, rfl, hequals, hne, exportAssignment_of_name hequals hne value vars⟩
  · exact .inl ⟨_, exportAssignment_of_no_equals hassigns vars⟩

/-- What can be exported: whatever has an `=` that is not its first character. -/
theorem exportAssignment_eq_ok_iff {vars after : Variables} {text name : String} :
    vars.exportAssignment text = (after, .ok name) ↔ ∃ value, text = name ++ "=" ++ value ∧
      '=' ∉ name.toList ∧ name ≠ "" ∧ after = vars.assign name value := by
  constructor
  · intro h
    rcases vars.exportAssignment_cases text with
      ⟨e, hrefused⟩ | ⟨first, value, rfl, hequals, hne, hmade⟩
    · cases hrefused.symm.trans h
    · cases hmade.symm.trans h
      exact ⟨value, rfl, hequals, hne, rfl⟩
  · rintro ⟨value, rfl, hequals, hne, rfl⟩
    exact exportAssignment_of_name hequals hne value vars

theorem exportAssignment_of_error {vars : Variables} {text : String} {e : VariableError}
    (h : (vars.exportAssignment text).2 = .error e) : (vars.exportAssignment text).1 = vars := by
  rcases vars.exportAssignment_cases text with ⟨e, hrefused⟩ | ⟨name, value, -, -, -, hmade⟩
  · rw [hrefused]
  · rw [hmade] at h
    cases h

/-- What is refused changes no variable. What is accepted need not be a valid name, and just the
valid ones are read back whatever is stored under them. Of the other names those that close no brace
are never read back. -/
theorem exportAssignment_readsBack_iff (vars : Variables) :
    (∀ text name after, vars.exportAssignment text = (after, .ok name) ↔
      ∃ value, text = name ++ "=" ++ value ∧ '=' ∉ name.toList ∧ name ≠ "" ∧
        after = vars.assign name value) ∧
    (∀ text e, (vars.exportAssignment text).2 = .error e → (vars.exportAssignment text).1 = vars ∧
      ∀ ws : Workspace, ws.vars = vars → (Standard.exportOne ws text).vars = vars) ∧
    ∀ name,
      (isValidName name ↔
        ∀ value, (vars.assign name value).ReadsBack name (vars.expand value)) ∧
      (¬isValidName name → '\x7d' ∉ name.toList → ∀ value (l : Lexer),
        (l.split (vars.assign name value).lookup (quotedReference name)).1 =
          .error (.expansion name .badSubstitution)) := by
  refine ⟨fun text name after => exportAssignment_eq_ok_iff, ?_, fun name =>
    ⟨isValidName_iff_readsBack name vars, fun hname hbrace value =>
      split_quotedReference_of_not_isValidName hname hbrace _⟩⟩
  intro text e herror
  have hsame := exportAssignment_of_error herror
  refine ⟨hsame, ?_⟩
  rintro ws rfl
  simp [Standard.exportOne, herror, hsame, Workspace.print]

/-- A value with quotes and a reference in it under the name of the last status, a name with a blank
in it and a text without a name. -/
theorem exportAssignment_readsBack_iff_status :
    let vars : Variables := ({} : Variables).set "_" "1"
    vars.exportAssignment "?='$_' \"$=" = (vars.set "?" "'1' \"$=", .ok "?") ∧
      isValidName "?" ∧ (vars.set "?" "'1' \"$=").ReadsBack "?" "'1' \"$=" ∧
      vars.exportAssignment "a b=$_" = (vars.assign "a b" "$_", .ok "a b") ∧
      ¬isValidName "a b" ∧ '\x7d' ∉ "a b".toList ∧
      (({} : Lexer).split (vars.assign "a b" "$_").lookup (quotedReference "a b")).1 =
        .error (.expansion "a b" .badSubstitution) ∧
      (vars.exportAssignment "=x").2 = .error (.invalidName "") ∧
      (Standard.exportOne { vars } "=x").vars = vars := by
  intro vars
  have hrefused : (vars.exportAssignment "=x").2 = .error (.invalidName "") := by decide +kernel
  have hname : isValidName "?" := by decide
  have hnot : ¬isValidName "a b" := by decide
  have hbrace : '\x7d' ∉ "a b".toList := by decide
  obtain ⟨hstores, hrefuses, hreads⟩ := exportAssignment_readsBack_iff vars
  have hexpand : vars.expand "'$_' \"$=" = "'1' \"$=" := by decide +kernel
  have hstatus := (hstores "?='$_' \"$=" "?" _).mpr ⟨"'$_' \"$=", rfl, by decide, by decide, rfl⟩
  have hblank := (hstores "a b=$_" "a b" _).mpr ⟨"$_", rfl, by decide, by decide, rfl⟩
  have hback := (hreads "?").1.mp hname "'$_' \"$="
  rw [assign, hexpand] at hstatus hback
  exact ⟨hstatus, hname, hback, hblank, hnot, hbrace, (hreads "a b").2 hnot hbrace "$_" {},
    hrefused, (hrefuses "=x" _ hrefused).2 { vars } rfl⟩

/-- A variable that can be exported and not referred to. -/
theorem not_readsBack_blank_name :
    let after := ({} : Variables).set "a b" "x"
    ({} : Variables).exportAssignment "a b=x" = (after, .ok "a b") ∧
      ¬after.ReadsBack "a b" "x" := by
  intro after
  have hsplit : (({} : Lexer).split after.lookup (quotedReference "a b")).1 =
      .error (.expansion "a b" .badSubstitution) := by decide +kernel
  refine ⟨by decide +kernel, fun h => ?_⟩
  cases hsplit.symm.trans (h.2 {})

end Variables

end NestedShell
