import NestedShell.Proofs.Context.Record
import NestedShell.Proofs.Context.Shorthand
import NestedShell.Proofs.Lexer.Reference
import NestedShell.Proofs.Options
import NestedShell.Proofs.Session.Requests
import NestedShell.Proofs.Session.Typed
import NestedShell.Standard

/-! The commands `export` and `setenv` as they are typed, and what they store as a quoted reference
gives it back. -/
namespace NestedShell
open Lexer (Draft inMode Finishes quotedReference)
variable {κ : Type}

namespace Session

/-- The innermost context has the handler under the name, which is not that of an alias. -/
def Offers (name : String) (handler : Handler κ) (s : Session κ) : Prop :=
  ∃ ctx below command, s.contexts = ctx :: below ∧ ctx.commands.lookup name = some command ∧
    command.handler = handler ∧ ctx.aliases.get? name = none

variable [Blueprint κ]

/-- What a statement does whose handler changes nothing but variables. -/
theorem dispatch_of_offers {s : Session κ} {name : String} {handler : Handler κ}
    (h : s.Offers name handler) {c : Char} (hc : name.toList.head? = some c)
    (hmark : c ∉ Context.marks) {args : List String} {vars : Variables}
    {answer : Except CommandError (Flow κ)}
    (hdoes : ∀ catalog screen aliases, handler catalog ⟨name :: args⟩ ⟨s.vars, screen, aliases⟩ =
      (⟨vars, screen, aliases⟩, answer)) :
    ∃ onFailure usage, s.dispatch (name :: args) =
      let (screen, flow) := report onFailure usage s.screen answer
      follow flow { s with vars := record flow vars, screen } := by
  obtain ⟨ctx, below, command, hcontexts, hcommand, rfl, halias⟩ := h
  refine ⟨ctx.onFailure, command.usage, ?_⟩
  have hresolve := ctx.resolve_of_plain hc hmark halias args
  simp only [dispatch, hcontexts, Context.call, hresolve, hcommand, Context.invoke,
    Option.map_some, Option.getD_some, hdoes]

/-- A typed statement whose handler sets variables and is done with that. -/
theorem runLine_of_done {s : Session κ} (hs : s.lexer = {}) {name : String} {handler : Handler κ}
    (h : s.Offers name handler) {c : Char} (hc : name.toList.head? = some c)
    (hmark : c ∉ Context.marks) {args : List String} {vars : Variables}
    (hdoes : ∀ catalog screen aliases, handler catalog ⟨name :: args⟩ ⟨s.vars, screen, aliases⟩ =
      (⟨vars, screen, aliases⟩, .ok .done)) :
    s.runLine (Lexer.join (name :: args)) = ({ s with vars }, .ok .complete) := by
  obtain ⟨onFailure, usage, hdispatch⟩ := dispatch_of_offers h hc hmark hdoes
  rw [runLine_join hs (List.cons_ne_nil _ _), hdispatch]
  rfl

end Session

namespace Variables

/-- An assignment is cut at the first `=`. -/
theorem exportAssignment_of_name {name : String} (hequals : '=' ∉ name.toList) (hne : name ≠ "")
    (text : String) (vars : Variables) :
    vars.exportAssignment (name ++ "=" ++ text) = (vars.assign name text, .ok name) := by
  have hcut : (name ++ "=" ++ text).toList = name.toList ++ '=' :: text.toList := by simp
  unfold exportAssignment
  rw [hcut, dropWhile_ne hequals, takeWhile_ne hequals]
  simp [hne]

theorem exportAssignment_of_isValidName {name : String} (h : isValidName name) (text : String)
    (vars : Variables) :
    vars.exportAssignment (name ++ "=" ++ text) = (vars.assign name text, .ok name) := by
  have hne : name ≠ "" := by
    rintro rfl
    cases h
  exact exportAssignment_of_name (not_mem_of_isValidName h (by decide)) hne text vars

theorem expand_of_no_dollar {text : String} (h : '$' ∉ text.toList) (vars : Variables) :
    vars.expand text = text := by
  rw [expand, expandFrom_of_no_dollar _ _ h, String.ofList_toList]

end Variables

theorem feedChars_quotedReference_words {vars : Variables} {name value : String}
    (hname : isValidName name) (hvalue : vars.get? name = some value) (words : List String) :
    (inMode .bare { words := words.reverse }).feedChars vars.lookup (quotedReference name).toList =
      inMode .bare { words := (words ++ [value]).reverse } := by
  have hread := Lexer.feedChars_quotedReference vars hname (d := { words := words.reverse }) rfl
  have hword : vars.value name = value := by simp [Variables.value, hvalue]
  rw [hread, hword]
  simp [Draft.add, Draft.endWord]

namespace Session
variable [Blueprint κ]

section
variable {u : Session κ} {name value : String} (hname : isValidName name)
  (hvalue : u.vars.get? name = some value) {words : List String}
  (hu : u.lexer = inMode .bare { words := words.reverse })
include hname hvalue hu

/-- A quoted reference adds its value to the words of a statement, as one word. -/
theorem feed_quotedReference : u.feed (quotedReference name) =
    ({ u with lexer := inMode .bare { words := (words ++ [value]).reverse } },
      .ok .incomplete) := by
  obtain ⟨e, he⟩ : ∃ e : Draft, e = { words := (words ++ [value]).reverse } := ⟨_, rfl⟩
  have hread : (inMode .bare { words := words.reverse }).feedChars u.vars.lookup
      (quotedReference name).toList =
        inMode .bare (e.framed [] (([] : List Lexer.LexError).map .error).reverse) := by
    rw [feedChars_quotedReference_words hname hvalue, he]
    simp [Draft.framed]
  rw [feed, feedChars_of_faults hu rfl (by rw [he]) hread, he]
  simp [progress, Lexer.isComplete, inMode]

/-- The statement is run with the value among its words, before those that the text behind the
reference adds. -/
theorem feed_quotedReference_finishes {text : String} {terminator : Lexer.Separator}
    {faults : List Lexer.LexError} {more : List String}
    (h : Finishes u.vars.lookup text terminator faults more) :
    u.feed ((quotedReference name ++ text).push terminator.char) =
      concluded (dispatch (words ++ value :: more) { u.reportAll faults with lexer := {} }) := by
  have hfirst := feedChars_quotedReference_words hname hvalue words
  obtain ⟨m, d, hd, hread, hturn⟩ := h.reads
  obtain ⟨e, he⟩ : ∃ e, e = d.framed (words ++ [value]).reverse [] := ⟨_, rfl⟩
  have hall : (inMode .bare { words := words.reverse }).feedChars u.vars.lookup
      (quotedReference name ++ text).toList =
        inMode m (e.framed [] (faults.map .error).reverse) := by
    rw [String.toList_append, Lexer.feedChars_append, hfirst, he]
    simpa [Draft.framed, hd] using hread (words ++ [value]).reverse []
  have hlast : m.turn u.vars.lookup terminator.char e =
      (.bare, { events := [.statement (words ++ value :: more)] }) := by
    simpa [he] using hturn (words ++ [value]).reverse [] (by simp)
  exact feed_statement hu rfl (by simp [he, Draft.framed, hd]) hall hlast

end

/-- What `export` stores a quoted reference gives back, as one word and whatever it holds. The name
may be any, those of the last status and the last result included; the text may hold anything, and
no other variable changes. The reference may stand anywhere in a later statement, as long as the
variable is as it was. -/
theorem export_quotedReference {s : Session κ} (hs : s.Reachable) (hcomplete : s.lexer.isComplete)
    (hoffers : s.Offers "export" Standard.exportAll) {name : String} (hname : isValidName name)
    (text : String) :
    let value := s.vars.expand text
    s.runLine (Lexer.join ["export", name ++ "=" ++ text]) =
      ({ s with vars := s.vars.set name value }, .ok .complete) ∧
    ('$' ∉ text.toList → value = text) ∧
    (s.vars.set name value).get? name = some value ∧
    (∀ other, other ≠ name → (s.vars.set name value).get? other = s.vars.get? other) ∧
    ∀ (u : Session κ) (words : List String), u.vars.get? name = some value →
      u.lexer = inMode .bare { words := words.reverse } →
        u.feed (quotedReference name) =
          ({ u with lexer := inMode .bare { words := (words ++ [value]).reverse } },
            .ok .incomplete) ∧
        ∀ behind terminator faults more, Finishes u.vars.lookup behind terminator faults more →
          u.feed ((quotedReference name ++ behind).push terminator.char) =
            concluded (dispatch (words ++ value :: more)
              { u.reportAll faults with lexer := {} }) := by
  have hlexer : s.lexer = {} := hs.rests.isComplete_iff.mp hcomplete
  refine ⟨?_, fun h => Variables.expand_of_no_dollar h s.vars, by simp, fun other hother => ?_,
    fun u words hvalue hu => ⟨feed_quotedReference hname hvalue hu, ?_⟩⟩
  · refine runLine_of_done hlexer hoffers (c := 'e') rfl (by decide)
      fun catalog screen aliases => ?_
    have hassign := Variables.exportAssignment_of_isValidName hname text s.vars
    simp [Standard.exportAll, Args.drop, Standard.exportOne, hassign, Variables.assign]
  · rw [Variables.get?_set, if_neg hother]
  · exact fun behind terminator faults more h =>
      feed_quotedReference_finishes hname hvalue hu h

/-- A session whose only context has the commands that set variables. -/
def assigning : Session Nest :=
  ({} : Session Nest).push
    { name := "main"
      commands := (({} : Registry Nest).install "export" Standard.exportUsage Standard.exportAll)
        |>.install "setenv" (Standard.setenvSignature.help "setenv") Standard.setenv }

theorem reachable_assigning : assigning.Reachable := .new rfl

theorem assigning_offers_export : assigning.Offers "export" Standard.exportAll :=
  ⟨_, _, _, rfl, rfl, rfl, rfl⟩

/-- A value that looks like a quote, a reference and two words, stored under the name of the last
status. -/
theorem export_quotedReference_status :
    let text := "'$SHLVL' \"$"
    let vars := assigning.vars.set "?" "'1' \"$"
    let u : Session Nest := { assigning with vars, lexer := inMode .bare { words := ["a"] } }
    assigning.Reachable ∧ assigning.lexer.isComplete ∧
      assigning.Offers "export" Standard.exportAll ∧ isValidName "?" ∧
      assigning.runLine (Lexer.join ["export", "?" ++ "=" ++ text]) =
        ({ assigning with vars }, .ok .complete) ∧
      vars.get? "?" = some "'1' \"$" ∧ Finishes vars.lookup " b" .semicolon [] ["b"] ∧
      u.feed ((quotedReference "?" ++ " b").push ';') =
        concluded (dispatch ["a", "'1' \"$", "b"] { u with lexer := {} }) := by
  intro text vars u
  have hname : isValidName "?" := by decide
  have hvalue : assigning.vars.expand text = "'1' \"$" := by decide +kernel
  have hbehind : Finishes vars.lookup " b" .semicolon [] ["b"] :=
    ⟨by decide +kernel, by decide +kernel⟩
  obtain ⟨hrun, -, hget, -, hread⟩ := export_quotedReference reachable_assigning (by decide)
    assigning_offers_export hname text
  rw [hvalue] at hrun hget hread
  have hcomplete : assigning.lexer.isComplete := by decide
  have hfed := (hread u ["a"] hget rfl).2 _ _ _ _ hbehind
  exact ⟨reachable_assigning, hcomplete, assigning_offers_export, hname, hrun, hget, hbehind, hfed⟩

end Session

/-- The variable holds the value, and no other one has changed. -/
def Variables.Stores (name value : String) (vars after : Variables) : Prop :=
  after.get? name = some value ∧ ∀ other, other ≠ name → after.get? other = vars.get? other

theorem Variables.stores_set (name value : String) (vars : Variables) :
    vars.Stores name value (vars.set name value) := by
  refine ⟨by simp, fun other hother => ?_⟩
  rw [get?_set, if_neg hother]

/-- To record a value that the variables tell already changes none of them. -/
theorem get?_record_of_tell {vars : Variables} {v : Value} (h : vars.Tell v) (name : String) :
    (record (.resume (some v) : Flow κ) vars).get? name = vars.get? name := by
  have htell := tell_record (κ := κ) v vars
  by_cases hstatus : name = Variables.lastStatus
  · rw [hstatus, h.status, htell.status]
  by_cases hresult : name = Variables.lastResult
  · rw [hresult, h.result, htell.result]
  exact get?_record hstatus hresult _ vars

namespace Standard
open Options (IsOrdinary)

theorem isOrdinary_of_isValidName {name : String} (h : isValidName name) :
    IsOrdinary name ↔ name ≠ "help" := by
  have hdash := not_mem_of_isValidName h (c := '-') (by decide)
  have hhead : name.toList.head? ≠ some '-' := fun hhead => hdash (List.mem_of_head? hhead)
  have hlong : name ≠ "--help" := by
    rintro rfl
    exact hhead rfl
  simp [IsOrdinary, Options.isHelp, hhead, hlong]

theorem read_setenvSignature_iff (name value : String) (result : Options.Reading) :
    setenvSignature.read [name, value] = .ok result ↔
      (IsOrdinary name ∧ IsOrdinary value) ∧ result = { positionals := [name, value] } := by
  have hfixed : Options.Fixed setenvSignature.positionals := by decide
  rw [Options.read_eq_ok_iff rfl hfixed rfl]
  simp

theorem setenv_of_isOrdinary {name value : String} (h : IsOrdinary name ∧ IsOrdinary value)
    (catalog : Catalog) (ws : Workspace) :
    (setenv : Handler κ) catalog ⟨["setenv", name, value]⟩ ws =
      ({ ws with vars := ws.vars.set name value }, .ok .done) := by
  have hread := (read_setenvSignature_iff name value _).mpr ⟨h, rfl⟩
  simp [setenv, Args.read, Args.drop, hread]

/-- Any other word is an option that there is not, or asks for help. -/
theorem setenv_of_not_isOrdinary {name value : String}
    (h : ¬(IsOrdinary name ∧ IsOrdinary value)) : ∃ (e : CommandError) (k : Int64),
      (k = 0 ∨ k = 2) ∧
      (∀ catalog ws, (setenv : Handler κ) catalog ⟨["setenv", name, value]⟩ ws = (ws, .error e)) ∧
      ∀ onFailure usage screen, (report onFailure usage screen
        (.error e : Except CommandError (Flow κ))).2 = .status k := by
  cases hread : setenvSignature.read [name, value] with
  | ok result => exact absurd ((read_setenvSignature_iff name value result).mp hread).1 h
  | error stop =>
    cases stop with
    | help =>
      refine ⟨.help (setenvSignature.help "setenv"), 0, .inl rfl, fun catalog ws => ?_,
        fun _ _ _ => rfl⟩
      simp [setenv, Args.read, Args.drop, Args.name, hread]
    | error e =>
      refine ⟨.options (String.ofList (Text.trimRight e.message.toList)), 2, .inr rfl,
        fun catalog ws => ?_, fun _ _ _ => rfl⟩
      simp [setenv, Args.read, Args.drop, hread]

/-- What is recorded of a refusal is no value that is refused. -/
theorem stores_record_iff {name value : String} {vars : Variables} {k : Int64}
    (hk : k = 0 ∨ k = 2) (h : ¬(IsOrdinary name ∧ IsOrdinary value)) :
    vars.Stores name value (record (.status k : Flow κ) vars) ↔
      vars.get? name = some value ∧ vars.Tell (.status k) := by
  have htell : (record (.status k : Flow κ) vars).Tell (.status k) := tell_record _ vars
  constructor
  · rintro ⟨hvalue, hothers⟩
    -- What is recorded under a name that is read as it is would not have been refused.
    have hne : ∀ told shown, (record (.status k : Flow κ) vars).get? told = some shown →
        IsOrdinary told ∧ IsOrdinary shown → name ≠ told := by
      rintro told shown htold hordinary rfl
      obtain rfl := Option.some.inj (htold.symm.trans hvalue)
      exact h hordinary
    have hstatus : name ≠ Variables.lastStatus :=
      hne _ _ htell.status (by rcases hk with rfl | rfl <;> decide)
    have hresult : name ≠ Variables.lastResult :=
      hne _ _ htell.result (by rcases hk with rfl | rfl <;> decide)
    rw [get?_record hstatus hresult] at hvalue
    exact ⟨hvalue, (hothers _ hstatus.symm).symm.trans htell.status,
      (hothers _ hresult.symm).symm.trans htell.result⟩
  · rintro ⟨hvalue, htold⟩
    have hsame := get?_record_of_tell (κ := κ) htold
    exact ⟨(hsame name).trans hvalue, fun other _ => hsame other⟩

end Standard

namespace Session
variable [Blueprint κ]
open Options (IsOrdinary)

/-- `setenv` stores the value as it is given unless the name is `help`, or the value is `help` or
begins with a dash. Such a word is taken for an option, which there is not, or for a wish for help,
and the status of that is all that is recorded. -/
theorem setenv_stores_iff {s : Session κ} (hs : s.Reachable) (hcomplete : s.lexer.isComplete)
    (hoffers : s.Offers "setenv" Standard.setenv) {name : String} (hname : isValidName name)
    (value : String) :
    let after := s.runLine (Lexer.join ["setenv", name, value])
    after.2 = .ok .complete ∧
    (name ≠ "help" ∧ IsOrdinary value →
      after.1 = { s with vars := s.vars.set name value } ∧
        s.vars.Stores name value after.1.vars) ∧
    (¬(name ≠ "help" ∧ IsOrdinary value) → ∃ k : Int64, (k = 0 ∨ k = 2) ∧
      after.1.vars = record (.status k : Flow κ) s.vars ∧
        (s.vars.Stores name value after.1.vars ↔
          s.vars.get? name = some value ∧ s.vars.Tell (.status k))) := by
  have hlexer : s.lexer = {} := hs.rests.isComplete_iff.mp hcomplete
  rw [← Standard.isOrdinary_of_isValidName hname]
  by_cases hwords : IsOrdinary name ∧ IsOrdinary value
  · have hrun : s.runLine (Lexer.join ["setenv", name, value]) =
        ({ s with vars := s.vars.set name value }, .ok .complete) :=
      runLine_of_done hlexer hoffers (c := 's') rfl (by decide)
        fun catalog screen aliases => Standard.setenv_of_isOrdinary hwords catalog _
    rw [hrun]
    exact ⟨rfl, fun _ => ⟨rfl, s.vars.stores_set name value⟩, fun h => absurd hwords h⟩
  · obtain ⟨e, k, hk, hdoes, hstatus⟩ := Standard.setenv_of_not_isOrdinary (κ := κ) hwords
    obtain ⟨onFailure, usage, hdispatch⟩ := dispatch_of_offers hoffers (c := 's') rfl (by decide)
      fun catalog screen aliases => hdoes catalog ⟨s.vars, screen, aliases⟩
    have hflow := hstatus onFailure usage s.screen
    rw [runLine_join hlexer (List.cons_ne_nil _ _), hdispatch]
    obtain ⟨screen, hreport⟩ : ∃ screen, report onFailure usage s.screen (.error e) =
        (screen, (.status k : Flow κ)) := ⟨_, Prod.ext rfl hflow⟩
    rw [hreport]
    exact ⟨rfl, fun h => absurd h hwords,
      fun _ => ⟨k, hk, rfl, Standard.stores_record_iff (κ := κ) hk hwords⟩⟩

theorem assigning_offers_setenv : assigning.Offers "setenv" Standard.setenv :=
  ⟨_, _, _, rfl, rfl, rfl, rfl⟩

/-- A value with quotes and a reference in it is stored as it is. -/
theorem setenv_stores_iff_reference :
    assigning.Reachable ∧ assigning.lexer.isComplete ∧
      assigning.Offers "setenv" Standard.setenv ∧ isValidName "X" ∧
      IsOrdinary "'$SHLVL' \"" ∧
      assigning.vars.Stores "X" "'$SHLVL' \""
        (assigning.runLine (Lexer.join ["setenv", "X", "'$SHLVL' \""])).1.vars := by
  have hcomplete : assigning.lexer.isComplete := by decide
  have hname : isValidName "X" := by decide
  have hvalue : IsOrdinary "'$SHLVL' \"" := by decide
  obtain ⟨-, hstores, -⟩ := setenv_stores_iff reachable_assigning hcomplete assigning_offers_setenv
    hname "'$SHLVL' \""
  exact ⟨reachable_assigning, hcomplete, assigning_offers_setenv, hname, hvalue,
    (hstores ⟨by decide, hvalue⟩).2⟩

/-- A negative number is refused, and so is a word that asks for help. -/
theorem not_stores_dash_help :
    assigning.Reachable ∧ assigning.lexer.isComplete ∧
      assigning.Offers "setenv" Standard.setenv ∧ isValidName "X" ∧
      ¬ assigning.vars.Stores "X" "-5"
        (assigning.runLine (Lexer.join ["setenv", "X", "-5"])).1.vars ∧
      ¬ assigning.vars.Stores "X" "help"
        (assigning.runLine (Lexer.join ["setenv", "X", "help"])).1.vars := by
  have hdash : (assigning.runLine (Lexer.join ["setenv", "X", "-5"])).1.vars.get? "X" = none := by
    decide +kernel
  have hhelp : (assigning.runLine (Lexer.join ["setenv", "X", "help"])).1.vars.get? "X" = none := by
    decide +kernel
  refine ⟨reachable_assigning, by decide, assigning_offers_setenv, by decide, fun h => ?_,
    fun h => ?_⟩
  · cases hdash.symm.trans h.1
  · cases hhelp.symm.trans h.1

end Session

end NestedShell
