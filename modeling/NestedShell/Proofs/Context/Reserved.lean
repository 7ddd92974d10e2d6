import NestedShell.Context
import NestedShell.Proofs.Ordered
import NestedShell.Proofs.Registry.History

/-! Reserved names, the empty one and those that start with an underscore. No command goes by one
and no statement that begins with one is run; but an alias may put one in front, and then the
fallback is run under it. -/
namespace NestedShell
variable {κ : Type}

theorem isReserved_eq_false {name : String} {c : Char} (h : name.toList.head? = some c)
    (hc : c ≠ '_') : isReserved name = false := by
  have hne : name ≠ "" := by
    rintro rfl
    cases h
  simp [isReserved, h, hc, hne]

namespace Registry

/-- No command goes by a reserved name. -/
def Unreserved (r : Registry κ) : Prop :=
  ∀ name c, r.lookup name = some c → isReserved name = false

theorem Unreserved.install {r : Registry κ} (h : Unreserved r) {name : String}
    (hname : isReserved name = false) (usage : String) (handler : Handler κ) :
    Unreserved (r.install name usage handler) := by
  intro other c hc
  rw [lookup_install] at hc
  split at hc
  · rename_i hother
    rwa [hother]
  · exact h other c hc

theorem run_register_of_isReserved {name : String} (hname : isReserved name) (usage : String)
    (handler : Handler κ) (r : Registry κ) :
    (Operation.register name usage handler).run r = r := by
  simp [Operation.run, Operation.attempt, register, hname]

theorem run_bind_of_isReserved {name : String} (hname : isReserved name) (existing : String)
    (r : Registry κ) : (Operation.bind name existing).run r = r := by
  simp [Operation.run, Operation.attempt, bind, hname]

theorem Unreserved.run {r : Registry κ} (h : Unreserved r) (operation : Operation κ) :
    Unreserved (operation.run r) := by
  cases operation with
  | register name usage handler =>
    by_cases hname : isReserved name
    · rwa [run_register_of_isReserved hname]
    · rcases run_register name usage handler r with hr | hr <;> rw [hr]
      · exact h
      · exact h.install (by simpa using hname) usage handler
  | bind name existing =>
    by_cases hname : isReserved name
    · rwa [run_bind_of_isReserved hname]
    · rcases run_bind name existing r with hr | ⟨c, -, hr⟩ <;> rw [hr]
      · exact h
      · intro other d hd
        rw [lookup_put] at hd
        split at hd
        · rename_i hother
          simpa [hother] using hname
        · exact h other d hd
  | erase name =>
    intro other c hc
    rw [run_erase, lookup_erase] at hc
    split at hc
    · cases hc
    · exact h other c hc

theorem unreserved_origin (origin : Origin) : Unreserved (origin.registry : Registry κ) := by
  cases origin with
  | empty => exact nofun
  | standard host =>
    unfold Origin.registry Registry.standard
    iterate 11 refine Unreserved.install ?_ (by decide) _ _
    exact nofun

end Registry

namespace Aliases

/-- The word that comes to stand in front is the one that stood there, or some replacement begins
with it. -/
theorem headD_expandFrom (aliases : Aliases) (limit : ℕ) (seen words : List String) :
    (aliases.expandFrom limit seen words).headD "" = words.headD "" ∨
      ∃ entry ∈ aliases.entries,
        (aliases.expandFrom limit seen words).headD "" = entry.2.headD "" := by
  induction limit generalizing seen words with
  | zero => exact .inl rfl
  | succ limit ih =>
    cases words with
    | nil => exact .inl rfl
    | cons head rest =>
      rw [expandFrom]
      split
      · rename_i first more hget
        split
        · exact .inl rfl
        · rcases ih (first :: seen) (first :: more ++ rest) with hfirst | hentry
          · exact .inr ⟨_, Ordered.mem_entries_of_get? hget, hfirst⟩
          · exact .inr hentry
      · exact .inl rfl

end Aliases

/-- A shorthand is not reserved, and neither is what it is short for. -/
theorem isReserved_spellOut (words : List String) :
    isReserved ((spellOut words).headD "") = isReserved (words.headD "") := by
  cases words with
  | nil => rfl
  | cons head rest =>
    rw [spellOut]
    split
    · rfl
    · rename_i c word hhead
      split
      · rfl
      · rename_i target htarget
        have hcommand : c ≠ '_' ∧ isReserved target = false := by
          unfold shorthand? at htarget
          split at htarget
          · rename_i hc
            cases htarget
            exact ⟨by simp [hc], by decide⟩
          · split at htarget
            · rename_i hc
              cases htarget
              exact ⟨by simp [hc], by decide⟩
            · cases htarget
        have hfirst : isReserved head = false :=
          isReserved_eq_false (by rw [hhead, List.head?_cons]) hcommand.1
        rw [List.headD_cons, hfirst]
        split <;> exact hcommand.2

namespace Context

/-- A change to the commands or to the aliases of a context. -/
inductive Change (κ : Type) where
  | command (operation : Registry.Operation κ)
  | define (name : String) (replacement : List String)
  | undefine (name : String)

def Change.run : Change κ → Context κ → Context κ
  | command operation, ctx => { ctx with commands := operation.run ctx.commands }
  | define name replacement, ctx =>
    { ctx with aliases := (ctx.aliases.set name replacement).1 }
  | undefine name, ctx => { ctx with aliases := ctx.aliases.erase name }

/-- The context after the changes, made in their order, to one that has the commands of `origin`
and is otherwise `ctx`. -/
def after (origin : Registry.Origin) (ctx : Context κ) (changes : List (Change κ)) : Context κ :=
  changes.foldl (fun ctx change => change.run ctx) { ctx with commands := origin.registry }

theorem unreserved_run {ctx : Context κ} (h : ctx.commands.Unreserved) (change : Change κ) :
    (change.run ctx).commands.Unreserved := by
  cases change with
  | command operation => exact h.run operation
  | define name replacement => exact h
  | undefine name => exact h

theorem unreserved_after (origin : Registry.Origin) (ctx : Context κ)
    (changes : List (Change κ)) : (after origin ctx changes).commands.Unreserved := by
  have hrun : ∀ ctx : Context κ, ctx.commands.Unreserved →
      (changes.foldl (fun ctx change => change.run ctx) ctx).commands.Unreserved := by
    induction changes with
    | nil => exact fun ctx h => h
    | cons change changes ih => exact fun ctx h => ih _ (unreserved_run h change)
  exact hrun _ (Registry.unreserved_origin origin)

/-- What a statement is run on, if it is run, has the first word that its aliases lead to, with a
shorthand written out. -/
theorem resolve_eq_invoke {ctx : Context κ} {words args : List String}
    {command : Option (Command κ)} (h : ctx.resolve words = .invoke args command) :
    isReserved (words.headD "") = false ∧ args = spellOut (ctx.aliases.expand words) ∧
      command = ctx.commands.lookup (args.headD "") := by
  unfold resolve at h
  split at h
  · cases h
  · rename_i hwords
    dsimp only at h
    split at h
    · cases h
    · cases h
      exact ⟨by simpa using hwords, rfl, rfl⟩

theorem resolve_of_isReserved_expand {ctx : Context κ} {words : List String}
    (hcommands : ctx.commands.Unreserved) (hwords : isReserved (words.headD "") = false)
    (hexpand : isReserved ((ctx.aliases.expand words).headD "")) :
    ctx.resolve words = .invoke (spellOut (ctx.aliases.expand words)) none := by
  have hcomment : ((ctx.aliases.expand words).headD "").toList.head? ≠ some '#' := by
    intro hhash
    rw [isReserved_eq_false hhash (by decide)] at hexpand
    cases hexpand
  have hlookup : ctx.commands.lookup ((spellOut (ctx.aliases.expand words)).headD "") = none := by
    by_contra hfound
    obtain ⟨c, hc⟩ := Option.ne_none_iff_exists'.mp hfound
    have hname := hcommands _ c hc
    rw [isReserved_spellOut, hexpand] at hname
    cases hname
  simp only [resolve, hwords, hcomment, hlookup, Bool.false_eq_true, if_false]

/-- No handler of a command is ever run under a reserved name. A fallback is, exactly for the
statements that begin with another name and are led to a reserved one by aliases; where no
replacement begins with a reserved name there is no such statement. -/
theorem run_under_reserved_iff (origin : Registry.Origin) (ctx : Context κ)
    (changes : List (Change κ)) (words : List String) :
    let ctx := after origin ctx changes
    (∀ args c, ctx.resolve words = .invoke args (some c) →
      isReserved (Args.name ⟨args⟩) = false) ∧
    ((∃ args, ctx.resolve words = .invoke args none ∧ isReserved (Args.name ⟨args⟩)) ↔
      isReserved (words.headD "") = false ∧
        isReserved ((ctx.aliases.expand words).headD "")) ∧
    ((∀ entry ∈ ctx.aliases.entries, isReserved (entry.2.headD "") = false) →
      ∀ args command, ctx.resolve words = .invoke args command →
        isReserved (Args.name ⟨args⟩) = false) := by
  intro ctx
  have hcommands : ctx.commands.Unreserved := unreserved_after origin _ changes
  refine ⟨?_, ⟨?_, ?_⟩, ?_⟩
  · intro args c hc
    obtain ⟨-, -, hlookup⟩ := resolve_eq_invoke hc
    exact hcommands _ c hlookup.symm
  · rintro ⟨args, hargs, hname⟩
    obtain ⟨hwords, rfl, -⟩ := resolve_eq_invoke hargs
    refine ⟨hwords, ?_⟩
    rwa [Args.name, isReserved_spellOut] at hname
  · rintro ⟨hwords, hexpand⟩
    refine ⟨_, resolve_of_isReserved_expand hcommands hwords hexpand, ?_⟩
    rwa [Args.name, isReserved_spellOut]
  · intro hentries args command hargs
    obtain ⟨hwords, rfl, -⟩ := resolve_eq_invoke hargs
    rw [Args.name, isReserved_spellOut]
    rcases ctx.aliases.headD_expandFrom ctx.aliases.size [] words with hhead | ⟨entry, he, hhead⟩
    · rw [Aliases.expand, hhead, hwords]
    · rw [Aliases.expand, hhead, hentries entry he]

/-- A command, and an alias for it with an argument. -/
def byeForQuit : List (Change Empty) :=
  [.command (.register "quit" "Leave." Standard.exit), .define "bye" ["quit", "0"]]

theorem run_under_reserved_iff_bye :
    let ctx := after .empty { name := "main" } byeForQuit
    (∀ entry ∈ ctx.aliases.entries, isReserved (entry.2.headD "") = false) ∧
      ∀ args command, ctx.resolve ["bye"] = .invoke args command →
        isReserved (Args.name ⟨args⟩) = false := by
  intro ctx
  have hentries : ∀ entry ∈ ctx.aliases.entries, isReserved (entry.2.headD "") = false := by
    decide
  exact ⟨hentries, (run_under_reserved_iff .empty _ byeForQuit ["bye"]).2.2 hentries⟩

/-- An alias may stand for a name with an underscore in front, or for an empty one. -/
theorem run_under_reserved_through_alias :
    let ctx := after (κ := Empty) .empty { name := "main" } [.define "x" ["_y"], .define "e" [""]]
    ¬ (∀ args command, ctx.resolve ["x"] = .invoke args command →
        isReserved (Args.name ⟨args⟩) = false) ∧
      ¬ (∀ args command, ctx.resolve ["e"] = .invoke args command →
        isReserved (Args.name ⟨args⟩) = false) := by
  intro ctx
  have hcommands : ctx.commands.Unreserved := unreserved_after _ _ _
  constructor
  · intro h
    have hname := h _ _ (resolve_of_isReserved_expand hcommands (by decide) (by decide))
    revert hname
    decide
  · intro h
    have hname := h _ _ (resolve_of_isReserved_expand hcommands (by decide) (by decide))
    revert hname
    decide

end Context

end NestedShell
