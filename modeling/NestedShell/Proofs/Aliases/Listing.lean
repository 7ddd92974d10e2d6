import NestedShell.Proofs.Aliases.History
import NestedShell.Proofs.Lexer.Misread
import NestedShell.Proofs.Lexer.Requote

/-! The listing of the aliases as a script: which tables it brings back when it is read and run. -/
namespace NestedShell

namespace Aliases
open Standard

/-- What the command `alias` prints when it has no words. -/
def listing (aliases : Aliases) : String :=
  ((defineOrShow : Handler Empty) {} ⟨["alias"]⟩ { aliases }).1.screen.out

/-- A new lexer finds one statement of the command `alias` for each alias in the listing, and they
make the table again. -/
def ReadsBack (vars : Lookup) (aliases : Aliases) : Prop :=
  ∃ statements, (({} : Lexer).split vars aliases.listing).1 = .ok statements ∧
    statements.length = aliases.size ∧ (∀ words ∈ statements, words.head? = some "alias") ∧
    rebuild statements = aliases

/-- An alias whose name need not be quoted, and whose replacement does not begin with an empty
word. -/
structure Legible (entry : String × List String) : Prop where
  name : Lexer.Verbatim entry.1
  first : entry.2.head? ≠ some ""

/-- The line of the listing for an alias. -/
def line (entry : String × List String) : String :=
  "alias " ++ entry.1 ++ "=" ++ Lexer.join entry.2 ++ "\n"

/-- The statement on that line when the name needs no quotes. -/
def statement (entry : String × List String) : List String :=
  "alias" :: (entry.1 ++ "=" ++ entry.2.headD "") :: entry.2.tail

theorem out_printAll (texts : List String) (ws : Workspace) :
    (ws.printAll texts).screen.out = ws.screen.out ++ String.join (texts.map (· ++ "\n")) := by
  unfold Workspace.printAll
  induction texts generalizing ws with
  | nil => simp
  | cons text texts ih =>
    rw [List.foldl_cons, ih, List.map_cons, String.join_cons]
    simp [Workspace.print, Transcript.print, Transcript.write, String.append_assoc]

theorem listing_eq (aliases : Aliases) :
    aliases.listing = String.join (aliases.entries.map line) := by
  have hprint : aliases.listing =
      (Workspace.printAll (aliasLines aliases) { aliases }).screen.out := rfl
  rw [hprint, out_printAll, aliasLines, List.map_map]
  exact String.empty_append

section
variable {entry : String × List String} {events : List Lexer.Event}

theorem feedChars_alias (vars : Lookup) (events : List Lexer.Event) :
    (Lexer.inMode .bare { events }).feedChars vars "alias ".toList =
      Lexer.inMode .bare { words := ["alias"], events } := by
  have hall : "alias".toList.all Lexer.isPlain := by decide
  have hplain : ∀ c ∈ "alias".toList, Lexer.isPlain c := List.all_eq_true.mp hall
  have htext : "alias ".toList = "alias".toList ++ [' '] := rfl
  rw [htext, Lexer.feedChars_append, Lexer.feedChars_plain vars _ hplain, Lexer.feedChars_cons,
    Lexer.feedChar_blank]
  rfl

theorem feedChars_line (vars : Lookup) (hname : Lexer.Verbatim entry.1) (hne : entry.2 ≠ []) :
    (Lexer.inMode .bare { events }).feedChars vars (line entry).toList =
      Lexer.inMode .bare { events := .statement (statement entry) :: events } := by
  obtain ⟨name, words⟩ := entry
  obtain ⟨first, rest, rfl⟩ := List.exists_cons_of_ne_nil hne
  obtain ⟨e, hread, hbreak⟩ := Lexer.feedChars_join vars first rest
    (({ words := ["alias"], events } : Lexer.Draft).add (name ++ "="))
  have hname : Lexer.Verbatim name := hname
  have hequals := Lexer.feedChars_verbatim_equals vars hname { words := ["alias"], events } rfl
  have htext : (line (name, first :: rest)).toList = "alias ".toList ++ (name ++ "=").toList ++
      (Lexer.join (first :: rest)).toList ++ [Lexer.Separator.lineFeed.char] := by
    simp [line, Lexer.Separator.char]
  rw [htext, Lexer.feedChars_append, Lexer.feedChars_append, Lexer.feedChars_append,
    feedChars_alias, hequals, hread, Lexer.feedChars_cons, Lexer.feedChar_separator,
    Lexer.feedChars_nil]
  simp [Lexer.Draft.endStatement, hbreak, Lexer.Draft.endWord, Lexer.Draft.add,
    Lexer.Draft.queue, statement]

theorem feedChars_lines (vars : Lookup) (entries : List (String × List String))
    (hname : ∀ entry ∈ entries, Lexer.Verbatim entry.1) (hne : ∀ entry ∈ entries, entry.2 ≠ [])
    (events : List Lexer.Event) :
    (Lexer.inMode .bare { events }).feedChars vars (String.join (entries.map line)).toList =
      Lexer.inMode .bare
        { events := ((entries.map statement).map .statement).reverse ++ events } := by
  induction entries generalizing events with
  | nil => rfl
  | cons entry entries ih =>
    rw [List.map_cons, String.join_cons, String.toList_append, Lexer.feedChars_append,
      feedChars_line vars (hname entry (by simp)) (hne entry (by simp)),
      ih (fun e he => hname e (by simp [he])) (fun e he => hne e (by simp [he]))]
    simp

/-- What comes behind the `=` of a first word is the first word of the replacement, unless it is
empty. -/
theorem definition_equals {name : String} (h : '=' ∉ name.toList) (value : String)
    (rest : List String) :
    definition (name ++ "=" ++ value) rest =
      (name, if value.isEmpty then rest else value :: rest) := by
  have hne : ∀ c ∈ name.toList, decide (c ≠ '=') = true := by
    intro c hc
    simpa using fun heq : c = '=' => h (heq ▸ hc)
  have htext : (name ++ "=" ++ value).toList = name.toList ++ '=' :: value.toList := by
    simp
  have hdrop : (name ++ "=" ++ value).toList.dropWhile (· ≠ '=') = '=' :: value.toList := by
    rw [htext, List.dropWhile_append_of_pos hne]
    rfl
  have htake : (name ++ "=" ++ value).toList.takeWhile (· ≠ '=') = name.toList := by
    rw [htext, List.takeWhile_append_of_pos hne]
    simp
  rw [definition, hdrop]
  dsimp only
  rw [htake, String.ofList_toList, String.ofList_toList]
  simp

theorem defined?_statement {aliases : Aliases} (h : Regular aliases)
    (hentry : entry ∈ aliases.entries) :
    defined? (statement entry) = some entry ↔ entry.2.head? ≠ some "" := by
  obtain ⟨name, words⟩ := entry
  obtain ⟨hname, hequals⟩ := h.name _ hentry
  obtain ⟨first, rest, rfl⟩ := List.exists_cons_of_ne_nil (h.replacement _ hentry)
  have hdefined : defined? (statement (name, first :: rest)) =
      let words := if first.isEmpty then rest else first :: rest
      if words.isEmpty then none else some (name, words) := by
    simp [defined?, statement, definition_equals hequals, hname]
  rw [hdefined]
  by_cases hfirst : first = ""
  · cases rest <;> simp [hfirst]
  · simp [hfirst]

end

theorem split_listing (vars : Lookup) (aliases : Aliases) :
    (({} : Lexer).split vars aliases.listing).1 =
      let l := (Lexer.inMode .bare {}).feedChars vars
        ((String.join (aliases.entries.map line)).toList ++ ['\n'])
      if l.isComplete then Lexer.statements l.draft.events.reverse else .error .unterminated := by
  have hreset : ({} : Lexer).reset = Lexer.inMode .bare {} := rfl
  simp only [Lexer.split, Lexer.feed, Lexer.takeEvents, hreset, listing_eq, String.toList_push]
  split_ifs with hcomplete hcomplete' hcomplete'
  · rfl
  · exact absurd hcomplete hcomplete'
  · exact absurd hcomplete' hcomplete
  · rfl

theorem split_listing_of_verbatim (vars : Lookup) {aliases : Aliases}
    (hname : ∀ entry ∈ aliases.entries, Lexer.Verbatim entry.1)
    (hne : ∀ entry ∈ aliases.entries, entry.2 ≠ []) :
    (({} : Lexer).split vars aliases.listing).1 = .ok (aliases.entries.map statement) := by
  have hlines := feedChars_lines vars aliases.entries hname hne []
  have hend := Lexer.feedChar_separator vars .lineFeed
    { events := ((aliases.entries.map statement).map .statement).reverse ++ [] }
  have hstatements := Lexer.statements_map_statement (aliases.entries.map statement)
  rw [split_listing, Lexer.feedChars_append, hlines, Lexer.feedChars_cons, Lexer.feedChars_nil]
  rw [Lexer.Separator.char] at hend
  rw [hend]
  simpa [Lexer.Draft.endStatement, Lexer.Draft.breakWord, Lexer.isComplete, Lexer.inMode,
    Cursor.isHome] using hstatements

/-- A legible table is made again whatever the variables are. -/
theorem readsBack_of_legible {aliases : Aliases} (h : Regular aliases)
    (hlegible : ∀ entry ∈ aliases.entries, Legible entry) (vars : Lookup) :
    ReadsBack vars aliases := by
  have hmap : (aliases.entries.map statement).map defined? = aliases.entries.map some := by
    rw [List.map_map]
    exact List.map_congr_left fun entry hentry =>
      (defined?_statement h hentry).mpr (hlegible entry hentry).first
  obtain ⟨hlength, hrebuild⟩ := (rebuild_iff h _).mpr hmap
  refine ⟨aliases.entries.map statement, ?_, hlength, ?_, hrebuild⟩
  · exact split_listing_of_verbatim vars (fun e he => (hlegible e he).name) h.replacement
  · intro words hwords
    obtain ⟨entry, -, rfl⟩ := List.mem_map.mp hwords
    rfl

section
variable {aliases : Aliases} {entry : String × List String} {words : List String}
  {before after : List (List String)} {rest : List Char} {m : Lexer.Mode} {e : Lexer.Draft}

theorem nameLength_of_defined? (hdefined : defined? words = some entry) {head first : String}
    (hbegins : [head, first] <+: (words :: after).flatten) :
    Lexer.nameLength first = entry.1.length := by
  obtain ⟨head', first', more, rfl, hdefinition, -, -⟩ := defined?_eq_some hdefined
  have hrest := (List.cons_prefix_cons.mp hbegins).2
  obtain rfl := (List.cons_prefix_cons.mp hrest).1
  rw [Lexer.nameLength, ← toList_definition_fst first more, hdefinition, String.length_toList]

/-- When the statement that is found in place of an alias defines it, the name needs no quotes. -/
theorem verbatim_of_yields
    (hread : (Lexer.inMode .bare { events := (before.map .statement).reverse }).feedChars
      Lookup.unset ((line entry).toList ++ rest) = Lexer.inMode m e)
    (hyields : Lexer.Yields m e (before ++ words :: after))
    (hdefined : defined? words = some entry) :
    Lexer.Verbatim entry.1 := by
  by_contra hname
  let start : Lexer.Draft := { words := ["alias"], events := (before.map .statement).reverse }
  have hearlier : start.earlier = before.flatten ++ ["alias"] :=
    Lexer.earlier_of_events (by simp [start])
  obtain ⟨behind, htext⟩ : ∃ behind,
      (line entry).toList ++ rest = "alias ".toList ++ (entry.1 ++ "=").toList ++ behind :=
    ⟨(Lexer.join entry.2).toList ++ '\n' :: rest, by simp [line]⟩
  obtain ⟨m₁, e₁, hnamed, hcase⟩ := Lexer.misnames_of_not_verbatim (d := start) hname rfl rfl
  obtain ⟨m₂, e₂, hfed, hgrows, -, hstuck⟩ :=
    Lexer.feedChars_grows Lookup.unset behind m₁ e₁
  rw [htext, Lexer.feedChars_append, Lexer.feedChars_append, feedChars_alias, hnamed, hfed] at hread
  obtain ⟨rfl, rfl⟩ := Lexer.inMode_injective hread
  rcases hcase with hcase | hcase
  · exact hyields.not_stuck (hstuck hcase)
  · obtain ⟨first, hbegins, hshort⟩ := hyields.exists_of_misnames (hcase.grows hgrows)
    rw [hearlier, List.flatten_append, List.append_assoc, List.prefix_append_right_inj] at hbegins
    exact hshort.ne (nameLength_of_defined? hdefined hbegins)

/-- Of a name that needs no quotes, the statement found is the one on its line. -/
theorem eq_statement_of_yields
    (hread : (Lexer.inMode .bare { events := (before.map .statement).reverse }).feedChars
      Lookup.unset ((line entry).toList ++ rest) = Lexer.inMode m e)
    (hyields : Lexer.Yields m e (before ++ words :: after)) (hname : Lexer.Verbatim entry.1)
    (hne : entry.2 ≠ []) : words = statement entry := by
  rw [Lexer.feedChars_append, feedChars_line Lookup.unset hname hne] at hread
  obtain ⟨m₂, e₂, hfed, -, hevents, -⟩ := Lexer.feedChars_grows Lookup.unset rest .bare
    { events := .statement (statement entry) :: (before.map .statement).reverse }
  rw [hfed] at hread
  obtain ⟨rfl, rfl⟩ := Lexer.inMode_injective hread
  obtain ⟨tail, htail⟩ := hyields.head rfl hevents
  exact (List.cons.inj htail).1

theorem legible_of_yields (h : Regular aliases) {entries : List (String × List String)}
    (hentries : ∀ entry ∈ entries, entry ∈ aliases.entries)
    (hread : (Lexer.inMode .bare { events := (before.map .statement).reverse }).feedChars
      Lookup.unset ((String.join (entries.map line)).toList ++ rest) = Lexer.inMode m e)
    (hyields : Lexer.Yields m e (before ++ after))
    (hdefined : after.map defined? = entries.map some) :
    ∀ entry ∈ entries, Legible entry := by
  induction entries generalizing before after with
  | nil => nofun
  | cons entry entries ih =>
    obtain ⟨words, after, rfl, hfirst, htail⟩ := List.map_eq_cons_iff.mp hdefined
    have hmem := hentries entry List.mem_cons_self
    have hne := h.replacement entry hmem
    rw [List.map_cons, String.join_cons, String.toList_append, List.append_assoc] at hread
    have hname := verbatim_of_yields hread hyields hfirst
    obtain rfl := eq_statement_of_yields hread hyields hname hne
    have hread : (Lexer.inMode .bare
        { events := ((before ++ [statement entry]).map .statement).reverse }).feedChars Lookup.unset
          ((String.join (entries.map line)).toList ++ rest) = Lexer.inMode m e := by
      rw [Lexer.feedChars_append, feedChars_line Lookup.unset hname hne] at hread
      simpa using hread
    have hyields : Lexer.Yields m e ((before ++ [statement entry]) ++ after) := by
      simpa using hyields
    intro other hother
    rcases List.mem_cons.mp hother with rfl | hother
    · exact ⟨hname, (defined?_statement h hmem).mp hfirst⟩
    · exact ih (fun e he => hentries e (by simp [he])) hread hyields htail other hother

end

theorem legible_of_readsBack {aliases : Aliases} (h : Regular aliases)
    (hreads : ReadsBack Lookup.unset aliases) : ∀ entry ∈ aliases.entries, Legible entry := by
  obtain ⟨statements, hsplit, hlength, -, hrebuild⟩ := hreads
  have hdefined := (rebuild_iff h statements).mp ⟨hlength, hrebuild⟩
  obtain ⟨m, e, hread, -, -, -⟩ := Lexer.feedChars_grows Lookup.unset
    ((String.join (aliases.entries.map line)).toList ++ ['\n']) .bare {}
  rw [split_listing, hread] at hsplit
  dsimp only at hsplit
  split at hsplit
  · rename_i hcomplete
    have hyields : Lexer.Yields m e ([] ++ statements) :=
      Lexer.yields_of_isComplete hcomplete hsplit
    exact legible_of_yields h (fun _ he => he) hread hyields hdefined
  · cases hsplit

/-- A table that calls of `alias` and `unalias` have brought about is read back from its listing,
whatever the variables are, just when each of its aliases is legible. -/
theorem readsBack_iff_legible (calls : List Call) :
    (∀ vars, ReadsBack vars (after calls)) ↔ ∀ entry ∈ (after calls).entries, Legible entry :=
  ⟨fun h => legible_of_readsBack (regular_after calls) (h Lookup.unset),
    fun h => readsBack_of_legible (regular_after calls) h⟩

/-- A blank in a name breaks it, and an empty first word is taken for nothing behind the `=`. -/
theorem not_readsBack_blank_empty :
    ¬ ReadsBack Lookup.unset (after [.define ⟨["alias", "a b=x"]⟩]) ∧
      ¬ ReadsBack Lookup.unset (after [.define ⟨["alias", "e", "", "x"]⟩]) := by
  constructor
  · intro h
    have hlegible := legible_of_readsBack (regular_after _) h ("a b", ["x"]) (by decide)
    exact absurd hlegible.name (by decide)
  · intro h
    have hlegible := legible_of_readsBack (regular_after _) h ("e", ["", "x"]) (by decide)
    exact absurd hlegible.first (by decide)

end Aliases

end NestedShell
