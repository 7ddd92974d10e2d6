import Mathlib.Tactic.Common
import NestedShell.Prompt

/-! The table of the escapes: what each letter stands for, by the variables that are set. -/
namespace NestedShell.Prompt

section
variable (place : Place) (vars : Variables)

/-- Who the user is, as the variables have it. -/
inductive User : String → Prop
  | named {name : String} (hname : vars.get? "USER" = some name) : User name
  | otherwise {name : String} (hnone : vars.get? "USER" = none)
      (hname : vars.get? "USERNAME" = some name) : User name
  | unknown (hnone : vars.get? "USER" = none) (hnone' : vars.get? "USERNAME" = none) : User ""

/-- The text that the letter after a percent sign stands for. -/
inductive LetterStandsFor : Char → String → Prop
  | percent : LetterStandsFor '%' "%"
  | newline : LetterStandsFor 'n' "\n"
  | user {name : String} (huser : User vars name) : LetterStandsFor 'u' name
  | host {name : String} (hname : vars.get? "HOSTNAME" = some name) : LetterStandsFor 'h' name
  | hostOfPlace (hnone : vars.get? "HOSTNAME" = none) : LetterStandsFor 'h' place.host
  | level {level : String} (hlevel : vars.get? "SHLVL" = some level) : LetterStandsFor 'L' level
  | levelUnset (hnone : vars.get? "SHLVL" = none) : LetterStandsFor 'L' ""
  | directory {path : String} (hpath : vars.get? "PWD" = some path) : LetterStandsFor 'd' path
  | directoryOfPlace (hnone : vars.get? "PWD" = none) : LetterStandsFor 'd' place.directory
  | root (huser : User vars "root") : LetterStandsFor '$' "#"
  | notRoot {name : String} (huser : User vars name) (hroot : name ≠ "root") :
      LetterStandsFor '$' ">"
  | color {c : Char} (hc : c ∈ "IDNRGYBMCWrgybmcw".toList) : LetterStandsFor c ""
  | itself {c : Char} (hletter : c ∉ ['n', 'u', 'h', 'L', 'd', '$'])
      (hcolor : c ∉ "IDNRGYBMCWrgybmcw".toList) : LetterStandsFor c (String.singleton c)

/-- What a name in braces stands for. -/
inductive NameStandsFor : String → String → Prop
  | set {name value : String} (hvalue : vars.get? name = some value) : NameStandsFor name value
  | unset {name : String} (hnone : vars.get? name = none) : NameStandsFor name name

variable {place vars}

theorem user_iff {name : String} : User vars name ↔ user vars = name := by
  constructor
  · rintro (hname | ⟨hnone, hname⟩ | ⟨hnone, hnone'⟩) <;> simp_all [user, Variables.value]
  · rintro rfl
    rcases huser : vars.get? "USER" with _ | name
    · rcases hname : vars.get? "USERNAME" with _ | name
      · simpa [user, Variables.value, huser, hname] using User.unknown huser hname
      · simpa [user, Variables.value, huser, hname] using User.otherwise huser hname
    · simpa [user, huser] using User.named huser

theorem nameStandsFor_iff {name text : String} :
    NameStandsFor vars name text ↔ named vars name = text := by
  constructor
  · rintro (hvalue | hnone) <;> simp_all [named]
  · rintro rfl
    rcases hvalue : vars.get? name with _ | value
    · simpa [named, hvalue] using NameStandsFor.unset hvalue
    · simpa [named, hvalue] using NameStandsFor.set hvalue

theorem escape_of_notMem {c : Char} (hletter : c ∉ ['n', 'u', 'h', 'L', 'd', '$']) :
    escape place vars c = if c ∈ colorLetters then "" else String.singleton c := by
  simp only [List.mem_cons, List.not_mem_nil, or_false, not_or] at hletter
  simp [escape, hletter]

theorem escape_of_letterStandsFor {c : Char} {text : String}
    (h : LetterStandsFor place vars c text) : escape place vars c = text := by
  cases h with
  | percent | newline => rfl
  | user huser => exact user_iff.mp huser
  | host hname | hostOfPlace hname => simp [escape, hname]
  | level hlevel | levelUnset hlevel => simp [escape, Variables.value, Variables.level, hlevel]
  | directory hpath | directoryOfPlace hpath => simp [escape, hpath]
  | root huser => simp [escape, user_iff.mp huser]
  | notRoot huser hroot => simp [escape, user_iff.mp huser, hroot]
  | color hc =>
    have hletter : c ∉ ['n', 'u', 'h', 'L', 'd', '$'] := by
      intro hletter
      simp only [List.mem_cons, List.not_mem_nil, or_false] at hletter
      rcases hletter with rfl | rfl | rfl | rfl | rfl | rfl <;> exact absurd hc (by decide)
    exact (escape_of_notMem hletter).trans (if_pos hc)
  | itself hletter hcolor => exact (escape_of_notMem hletter).trans (if_neg hcolor)

theorem exists_letterStandsFor (place : Place) (vars : Variables) (c : Char) :
    ∃ text, LetterStandsFor place vars c text := by
  by_cases hcolor : c ∈ "IDNRGYBMCWrgybmcw".toList
  · exact ⟨_, .color hcolor⟩
  by_cases hletter : c ∈ ['n', 'u', 'h', 'L', 'd', '$']
  · have huser : User vars (user vars) := user_iff.mpr rfl
    simp only [List.mem_cons, List.not_mem_nil, or_false] at hletter
    rcases hletter with rfl | rfl | rfl | rfl | rfl | rfl
    · exact ⟨_, .newline⟩
    · exact ⟨_, .user huser⟩
    · rcases hname : vars.get? "HOSTNAME" with _ | name
      · exact ⟨_, .hostOfPlace hname⟩
      · exact ⟨_, .host hname⟩
    · rcases hlevel : vars.get? "SHLVL" with _ | level
      · exact ⟨_, .levelUnset hlevel⟩
      · exact ⟨_, .level hlevel⟩
    · rcases hpath : vars.get? "PWD" with _ | path
      · exact ⟨_, .directoryOfPlace hpath⟩
      · exact ⟨_, .directory hpath⟩
    · by_cases hroot : user vars = "root"
      · exact ⟨_, .root (user_iff.mpr hroot)⟩
      · exact ⟨_, .notRoot huser hroot⟩
  · exact ⟨_, .itself hletter hcolor⟩

/-- The table gives every letter a text, and no letter two. -/
theorem letterStandsFor_iff {c : Char} {text : String} :
    LetterStandsFor place vars c text ↔ escape place vars c = text := by
  constructor
  · exact escape_of_letterStandsFor
  · rintro rfl
    obtain ⟨text, htext⟩ := exists_letterStandsFor place vars c
    rwa [escape_of_letterStandsFor htext]

end

end NestedShell.Prompt
