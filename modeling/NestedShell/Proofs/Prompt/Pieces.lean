import NestedShell.Proofs.Prompt.Escapes
import NestedShell.Proofs.Prompt.Rules

/-! Templates, piece by piece. Every piece has an expansion of its own, whatever stands around it,
and nothing that has been put out is looked at again. -/
namespace NestedShell.Prompt

section
variable (place : Place) (vars : Variables)

/-- A part of a template that is expanded by itself. -/
inductive Piece where
  | plain (c : Char) (hc : c ≠ '%')
  | named (name : List Char) (hname : '\x7d' ∉ name)
  | color (name : List Char) (hname : ']' ∉ name)
  | escaped (c : Char) (hbrace : c ≠ '\x7b') (hbracket : c ≠ '[')

/-- An escape that the template ends in the middle of, if there is one. -/
inductive Tail where
  | closed
  | percent
  | named (name : List Char) (hname : '\x7d' ∉ name)
  | color (name : List Char) (hname : ']' ∉ name)

def Piece.text : Piece → List Char
  | plain c _ => [c]
  | named name _ => '%' :: '\x7b' :: (name ++ ['\x7d'])
  | color name _ => '%' :: '[' :: (name ++ [']'])
  | escaped c _ _ => ['%', c]

def Piece.expansion : Piece → String
  | plain c _ => String.singleton c
  | named name _ => Prompt.named vars (String.ofList name)
  | color _ _ => ""
  | escaped c _ _ => escape place vars c

/-- What the piece expands to, by the table of the escapes. -/
def Piece.StandsFor : Piece → String → Prop
  | plain c _, text => text = String.singleton c
  | named name _, text => NameStandsFor vars (String.ofList name) text
  | color _ _, text => text = ""
  | escaped c _ _, text => LetterStandsFor place vars c text

theorem Piece.standsFor_iff (piece : Piece) (text : String) :
    piece.StandsFor place vars text ↔ piece.expansion place vars = text := by
  cases piece with
  | plain | color => exact eq_comm
  | named => exact nameStandsFor_iff
  | escaped => exact letterStandsFor_iff

def Tail.text : Tail → List Char
  | closed => []
  | percent => ['%']
  | named name _ => '%' :: '\x7b' :: name
  | color name _ => '%' :: '[' :: name

def Tail.expansion : Tail → String
  | closed | color _ _ => ""
  | percent => "%"
  | named name _ => "%\x7b" ++ String.ofList name

/-- The template that the pieces and the tail make up. -/
def written (pieces : List Piece) (tail : Tail) : String :=
  String.ofList (pieces.flatMap Piece.text ++ tail.text)

theorem expandFrom_name {name : List Char} (hname : '\x7d' ∉ name) (read rest : List Char) :
    expandFrom place vars (.name read) (name ++ rest) =
      expandFrom place vars (.name (name.reverse ++ read)) rest := by
  induction name generalizing read with
  | nil => rfl
  | cons c name ih =>
    rw [List.mem_cons, not_or] at hname
    rw [List.cons_append, expandFrom, if_neg (Ne.symm hname.1), ih hname.2, List.reverse_cons,
      List.append_assoc, List.singleton_append]

theorem expandFrom_color {name : List Char} (hname : ']' ∉ name) (rest : List Char) :
    expandFrom place vars .color (name ++ rest) = expandFrom place vars .color rest := by
  induction name with
  | nil => rfl
  | cons c name ih =>
    rw [List.mem_cons, not_or] at hname
    rw [List.cons_append, expandFrom, if_neg (Ne.symm hname.1), ih hname.2]

/-- A piece leaves the reader in the text around it, with nothing that it carries over. -/
theorem expandFrom_piece (piece : Piece) (rest : List Char) :
    expandFrom place vars .text (piece.text ++ rest) =
      (piece.expansion place vars).toList ++ expandFrom place vars .text rest := by
  cases piece with
  | plain c hc => simp [Piece.text, Piece.expansion, expandFrom, hc]
  | named name hname => simp [Piece.text, Piece.expansion, expandFrom, expandFrom_name, hname]
  | color name hname => simp [Piece.text, Piece.expansion, expandFrom, expandFrom_color, hname]
  | escaped c hbrace hbracket =>
    simp [Piece.text, Piece.expansion, expandFrom, hbrace, hbracket]

theorem expandFrom_tail (tail : Tail) :
    expandFrom place vars .text tail.text = tail.expansion.toList := by
  cases tail with
  | closed | percent => rfl
  | named name hname =>
    have hopen := expandFrom_name place vars hname [] []
    simp_all [Tail.text, Tail.expansion, expandFrom]
  | color name hname =>
    have hopen := expandFrom_color place vars hname []
    simp_all [Tail.text, Tail.expansion, expandFrom]

theorem expand_written (pieces : List Piece) (tail : Tail) :
    expand place vars (written pieces tail) =
      String.join (pieces.map (·.expansion place vars)) ++ tail.expansion := by
  rw [expand, written, String.toList_ofList, ← String.toList_inj, String.toList_ofList]
  induction pieces with
  | nil => simp [expandFrom_tail]
  | cons piece pieces ih => simp [expandFrom_piece, ih]

end

/-- Every template is made up of pieces and a tail. -/
theorem exists_written (cs : List Char) :
    ∃ pieces tail, cs = List.flatMap Piece.text pieces ++ Tail.text tail := by
  induction hlength : cs.length using Nat.strongRecOn generalizing cs with
  | ind n ih =>
    subst hlength
    have hpiece (piece : Piece) (rest : List Char) (hcs : cs = piece.text ++ rest)
        (hshorter : rest.length < cs.length) :
        ∃ pieces tail, cs = List.flatMap Piece.text pieces ++ Tail.text tail := by
      obtain ⟨pieces, tail, hrest⟩ := ih rest.length hshorter rest rfl
      exact ⟨piece :: pieces, tail, by rw [hcs, List.flatMap_cons, List.append_assoc, ← hrest]⟩
    rcases cs with _ | ⟨c, cs⟩
    · exact ⟨[], .closed, rfl⟩
    by_cases hc : c = '%'
    · subst hc
      rcases cs with _ | ⟨c, cs⟩
      · exact ⟨[], .percent, rfl⟩
      by_cases hbrace : c = '\x7b'
      · subst hbrace
        by_cases hclosed : '\x7d' ∈ cs
        · obtain ⟨name, rest, rfl, hname⟩ := List.eq_append_cons_of_mem hclosed
          exact hpiece (.named name hname) rest (by simp [Piece.text]) (by simp; omega)
        · exact ⟨[], .named cs hclosed, rfl⟩
      by_cases hbracket : c = '['
      · subst hbracket
        by_cases hclosed : ']' ∈ cs
        · obtain ⟨name, rest, rfl, hname⟩ := List.eq_append_cons_of_mem hclosed
          exact hpiece (.color name hname) rest (by simp [Piece.text]) (by simp; omega)
        · exact ⟨[], .color cs hclosed, rfl⟩
      · exact hpiece (.escaped c hbrace hbracket) cs rfl (by grind)
    · exact hpiece (.plain c hc) cs rfl (by simp)

/-- The text with every percent sign doubled. -/
def doubled (text : String) : String :=
  String.ofList (text.toList.flatMap fun c => if c = '%' then ['%', '%'] else [c])

/-- The piece that stands for one character. -/
def Piece.literal (c : Char) : Piece :=
  if hc : c = '%' then .escaped '%' (by decide) (by decide) else .plain c hc

theorem doubled_eq (text : String) :
    doubled text = written (text.toList.map Piece.literal) .closed := by
  have htext : ∀ c, (Piece.literal c).text = if c = '%' then ['%', '%'] else [c] := by
    intro c
    unfold Piece.literal
    split <;> simp_all [Piece.text]
  simp [doubled, written, List.flatMap_map, htext, Tail.text]

theorem expansion_literal (place : Place) (vars : Variables) (c : Char) :
    (Piece.literal c).expansion place vars = String.singleton c := by
  have hpercent : escape place vars '%' = "%" := by
    rw [escape]
    rfl
  unfold Piece.literal
  split
  · rename_i hc
    rw [Piece.expansion, hpercent, hc]
    rfl
  · rfl

theorem expand_doubled (place : Place) (vars : Variables) (text : String) :
    expand place vars (doubled text) = text := by
  rw [doubled_eq, expand_written, List.map_map, ← String.toList_inj]
  simp [Function.comp_def, expansion_literal, Tail.expansion, List.flatMap_map]

/-- The expansion of a template is that of its pieces, each by itself and as the table of the
escapes has it, with what is left open at the end: of a color nothing, and all else as it stands.
Every template is made up in this way. What a variable holds is put out as it is, and so is a text
with its percent signs doubled. The machine with the rules of the escapes does the same. -/
theorem expand_of_pieces (place : Place) (vars : Variables) :
    (∀ pieces tail, expand place vars (written pieces tail) =
      String.join (pieces.map fun piece => expand place vars (String.ofList piece.text)) ++
        tail.expansion) ∧
    (∀ piece : Piece, expand place vars (String.ofList piece.text) = piece.expansion place vars) ∧
    (∀ (piece : Piece) text,
      piece.StandsFor place vars text ↔ expand place vars (String.ofList piece.text) = text) ∧
    (∀ template, ∃ pieces tail, written pieces tail = template) ∧
    (∀ text, expand place vars (doubled text) = text) ∧
    ∀ template, render place vars template = expand place vars template := by
  have hpiece (piece : Piece) :
      expand place vars (String.ofList piece.text) = piece.expansion place vars := by
    simpa [written, Tail.text, Tail.expansion] using expand_written place vars [piece] .closed
  refine ⟨fun pieces tail => ?_, hpiece, fun piece text => ?_, fun template => ?_,
    expand_doubled place vars, render_eq_expand place vars⟩
  · simp only [hpiece, expand_written]
  · rw [hpiece, Piece.standsFor_iff]
  · obtain ⟨pieces, tail, htemplate⟩ := exists_written template.toList
    exact ⟨pieces, tail, by rw [written, ← htemplate, String.ofList_toList]⟩

/-- A value is not expanded again, whatever it holds. -/
example : expand {} (Variables.ofPairs [("A", "%u%\x7bA\x7d")]) "%\x7bA\x7d%%[x]\x7b%" =
    "%u%\x7bA\x7d%[x]\x7b%" := by
  decide +kernel

end NestedShell.Prompt
