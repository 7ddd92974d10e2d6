import NestedShell.Proofs.Lexer.Agreement
import NestedShell.Proofs.Lexer.Invariant
import NestedShell.Proofs.Variables.Pieces

/-! References as the lexer takes them, each with the text it is written in and the draft it
leaves: the reading goes on behind the reference as if the value had stood there. -/
namespace NestedShell.Lexer

/-- The draft behind a reference in braces. -/
def Draft.referBraced (vars : Lookup) (name : String) (d : Draft) : Draft :=
  if isValidName name then d.substitute vars name
  else d.queue (.error (.expansion name .badSubstitution))

theorem Draft.rename_of_name_eq {d : Draft} (hd : d.name = "") : { d with name := "" } = d := by
  rw [← hd]

/-- Characters that each go to the end of the name are read as one. -/
theorem feedChars_of_push {vars : Lookup} {m : Mode} {cs : List Char} {d : Draft}
    (h : ∀ c ∈ cs, ∀ d : Draft, m.turn vars c d = (m, { d with name := d.name.push c })) :
    (inMode m d).feedChars vars cs = inMode m { d with name := d.name ++ String.ofList cs } := by
  induction cs generalizing d with
  | nil => simp
  | cons c cs ih =>
    rw [feedChars_cons, feedChar_inMode, h c (by simp), ih (fun e he => h e (by simp [he]))]
    simp [String.ofList_cons, String.append_assoc, ← String.append_singleton]

namespace Surroundings
variable (k : Surroundings) (vars : Lookup) {d : Draft}

theorem feedChars_name {name : List Char} (hname : ∀ c ∈ name, isNameChar c) :
    (inMode k.name d).feedChars vars name =
      inMode k.name { d with name := d.name ++ String.ofList name } :=
  feedChars_of_push fun c hc d => k.turn_name vars d (hname c hc)

theorem feedChars_inBraces {body : List Char} (hbody : '\x7d' ∉ body) :
    (inMode k.braced d).feedChars vars body =
      inMode k.braced { d with name := d.name ++ String.ofList body } := by
  refine feedChars_of_push fun c hc d => k.turn_braced vars d ?_
  rintro rfl
  exact hbody hc

theorem feedChars_openBrace {body : List Char} (hbody : '\x7d' ∉ body) :
    (inMode k.home d).feedChars vars ('$' :: '\x7b' :: body) =
      inMode k.braced { d with name := String.ofList body } := by
  rw [feedChars_cons, feedChar_inMode, k.turn_dollar, feedChars_cons, feedChar_inMode,
    k.turn_brace, k.feedChars_inBraces vars hbody]
  simp

variable (hd : d.name = "")
include hd

/-- A `$` stands for itself before a character that begins no name. -/
theorem feedChars_dollar {c : Char} (hc : isNameChar c = false) (hbrace : c ≠ '\x7b')
    (cs : List Char) : (inMode k.home d).feedChars vars ('$' :: c :: cs) =
      (inMode k.home (d.add "$")).feedChars vars (c :: cs) := by
  have hend : Draft.endName vars d = d.add "$" := by
    simp [Draft.endName, Draft.rename_of_name_eq hd, hd]
  simp only [feedChars_cons, feedChar_inMode, k.turn_dollar, Draft.rename_of_name_eq hd,
    k.turn_start_of_end vars d (c := c) (by simp [hc]) hbrace, hend]

/-- A name ends before the first character that is no part of it. -/
theorem feedChars_named {name : List Char} (hne : name ≠ []) (hname : ∀ c ∈ name, isNameChar c)
    {c : Char} (hc : isNameChar c = false) (cs : List Char) :
    (inMode k.home d).feedChars vars ('$' :: (name ++ c :: cs)) =
      (inMode k.home (d.substitute vars (String.ofList name))).feedChars vars (c :: cs) := by
  obtain ⟨first, name, rfl⟩ := List.exists_cons_of_ne_nil hne
  have hend : Draft.endName vars { d with name := String.ofList (first :: name) } =
      d.substitute vars (String.ofList (first :: name)) := by
    simp [Draft.endName, Draft.rename_of_name_eq hd]
  have hread : (inMode k.home d).feedChars vars ('$' :: first :: name) =
      inMode k.name { d with name := String.ofList (first :: name) } := by
    rw [feedChars_cons, feedChar_inMode, k.turn_dollar, feedChars_cons, feedChar_inMode,
      k.turn_start vars _ (hname first (by simp)),
      k.feedChars_name vars (fun e he => hname e (by simp [he]))]
    simp [String.ofList_cons, ← String.append_singleton]
  calc (inMode k.home d).feedChars vars ('$' :: (first :: name ++ c :: cs))
      = ((inMode k.home d).feedChars vars ('$' :: first :: name)).feedChars vars (c :: cs) := by
        simp only [List.cons_append, feedChars_cons, feedChars_append]
    _ = (inMode k.home (d.substitute vars (String.ofList (first :: name)))).feedChars vars
        (c :: cs) := by
        rw [hread, feedChars_cons, feedChar_inMode, k.turn_name_of_end vars _ (by simp [hc]), hend,
          feedChars_cons, feedChar_inMode]

theorem feedChars_braced {body : List Char} (hbody : '\x7d' ∉ body) :
    (inMode k.home d).feedChars vars ('$' :: '\x7b' :: (body ++ ['\x7d'])) =
      inMode k.home (d.referBraced vars (String.ofList body)) := by
  have hread := k.feedChars_openBrace vars (d := d) hbody
  rw [← List.cons_append, ← List.cons_append, feedChars_append, hread, feedChars_cons,
    feedChar_inMode, k.turn_closingBrace]
  simp [Draft.endBraced, Draft.referBraced, Draft.rename_of_name_eq hd]

end Surroundings

/-- A reference in braces, in double quotes. -/
def quotedReference (name : String) : String := "\"$\x7b" ++ name ++ "\x7d\""

/-- A quoted reference whose name closes no brace is one word, and an error where the name is not
valid. -/
theorem feedChars_quoted (vars : Lookup) {name : String} (hbrace : '\x7d' ∉ name.toList) {d : Draft}
    (hd : d.name = "") : (inMode .bare d).feedChars vars (quotedReference name).toList =
      inMode .bare (d.referBraced vars name).endWord := by
  have hread := Surroundings.doubleQuoted.feedChars_braced vars hd hbrace
  rw [String.ofList_toList] at hread
  have hopen := feedChar_inMode vars '"' .bare d
  have hclose := feedChar_inMode vars '"' .doubleQuote (d.referBraced vars name)
  have htext : (quotedReference name).toList =
      '"' :: (('$' :: '\x7b' :: (name.toList ++ ['\x7d'])) ++ ['"']) := by
    simp [quotedReference]
  rw [htext, feedChars_cons, hopen, feedChars_append]
  exact (congrArg (feedChars vars ['"']) hread).trans hclose

/-- A quoted reference is a word whatever the value is. -/
theorem feedChars_quotedReference (vars : Variables) {name : String} (h : isValidName name)
    {d : Draft} (hd : d.name = "") :
    (inMode .bare d).feedChars vars.lookup (quotedReference name).toList =
      inMode .bare (d.add (vars.value name)).endWord := by
  have hbrace := not_mem_of_isValidName h (c := '\x7d') (by decide)
  rw [feedChars_quoted vars.lookup hbrace hd, Draft.referBraced, if_pos h]
  rfl

end NestedShell.Lexer
