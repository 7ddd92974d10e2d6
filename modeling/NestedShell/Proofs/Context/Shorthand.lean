import NestedShell.Proofs.Aliases.Expansion
import NestedShell.Proofs.Context.Reserved

/-! Statements that begin with a shorthand, against a call that keeps a trace of the handlers it
runs and has no result where it asks a list for a first element that is not there. A shorthand is a
spelling and nothing more: what is run is the command it is short for, once. -/
namespace NestedShell
variable {κ : Type}

/-- The handlers that have been run with the words they were given, the last one first. -/
abbrev Trace (κ : Type) := List (Handler κ × Args)

abbrev Traced (κ : Type) := StateT (Trace κ) Option

namespace Traced
variable {α : Type}

def first (items : List α) : Traced κ α := fun trace => items.head?.map (·, trace)

def withoutFirst (items : List α) : Traced κ (List α) := fun trace => items.tail?.map (·, trace)

/-- All that a handler does is done here. -/
def handle (handler : Handler κ) (catalog : Catalog) (args : Args) (ws : Workspace) :
    Traced κ (Workspace × Except CommandError (Flow κ)) :=
  fun trace => some (handler catalog args ws, (handler, args) :: trace)

/-- Takes the first character off the first word, and the word with it when nothing is left of
it. -/
def shorten (words : List String) : Traced κ (List String) := do
  let head ← first words
  let shortened := String.ofList (← withoutFirst head.toList)
  let words := words.set 0 shortened
  if shortened.isEmpty then withoutFirst words else return words

/-- Puts the command that a shorthand is short for in front. -/
def spellOut (words : List String) : Traced κ (List String) := do
  let head ← first words
  match head.toList.head?.bind shorthand? with
  | none => return words
  | some target => return target :: (← shorten words)

end Traced

namespace Context

/-- The handler that answers to a command, or for want of one. -/
def handler (ctx : Context κ) (command : Option (Command κ)) : Handler κ :=
  (command.map (·.handler)).getD ctx.fallback

/-- Reports and records what a handler has answered. -/
def settle (ctx : Context κ) (command : Option (Command κ))
    (answer : Workspace × Except CommandError (Flow κ)) : Outcome κ :=
  let (ws, result) := answer
  let (screen, flow) := report ctx.onFailure ((command.map (·.usage)).getD "") ws.screen result
  ⟨{ ctx with aliases := ws.aliases }, record flow ws.vars, screen, flow⟩

/-- A call with its trace. -/
def traceCall (ctx : Context κ) (words : List String) (vars : Variables) (screen : Transcript) :
    Traced κ (Outcome κ) := do
  if isReserved (words.headD "") then
    return ⟨ctx, vars, screen, .status 2⟩
  let words := ctx.aliases.expand words
  let head ← Traced.first words
  if head.toList.head? = some '#' then
    return ⟨ctx, vars, screen, .status 0⟩
  let words ← Traced.spellOut words
  let command := ctx.commands.lookup (← Traced.first words)
  let answer ← Traced.handle (ctx.handler command) ctx.commands.catalog ⟨words⟩
    ⟨vars, screen, ctx.aliases⟩
  return ctx.settle command answer

/-- What a statement runs. -/
def runs (ctx : Context κ) (words : List String) : Trace κ :=
  match ctx.resolve words with
  | .invoke words command => [(ctx.handler command, ⟨words⟩)]
  | _ => []

end Context

namespace Traced
variable {α β : Type}

theorem run_bind {m : Traced κ α} {a : α} {trace trace' : Trace κ}
    (h : m.run trace = some (a, trace')) (f : α → Traced κ β) :
    (m >>= f).run trace = (f a).run trace' := by
  rw [StateT.run_bind, h]
  rfl

theorem run_first (item : α) (items : List α) (trace : Trace κ) :
    (first (item :: items)).run trace = some (item, trace) := rfl

theorem run_withoutFirst (item : α) (items : List α) (trace : Trace κ) :
    (withoutFirst (item :: items)).run trace = some (items, trace) := rfl

theorem run_handle (handler : Handler κ) (catalog : Catalog) (args : Args) (ws : Workspace)
    (trace : Trace κ) : (handle handler catalog args ws).run trace =
      some (handler catalog args ws, (handler, args) :: trace) := rfl

theorem run_shorten {head : String} {c : Char} {word : List Char} (h : head.toList = c :: word)
    (rest : List String) (trace : Trace κ) : (shorten (head :: rest)).run trace =
      some (if word.isEmpty then rest else String.ofList word :: rest, trace) := by
  rw [shorten, run_bind (run_first head rest trace), h, run_bind (run_withoutFirst c word trace)]
  cases word <;> simp [run_withoutFirst]

/-- There is a first character to take off wherever there is a shorthand. -/
theorem run_spellOut {words : List String} (h : words ≠ []) (trace : Trace κ) :
    (spellOut words).run trace = some (NestedShell.spellOut words, trace) := by
  obtain ⟨head, rest, rfl⟩ := List.exists_cons_of_ne_nil h
  rw [spellOut, run_bind (run_first head rest trace)]
  rcases hhead : head.toList with _ | ⟨c, word⟩
  · simp [NestedShell.spellOut, hhead]
  · cases htarget : shorthand? c with
    | none => simp [NestedShell.spellOut, hhead, htarget]
    | some target =>
      simp only [List.head?_cons, Option.bind_some, htarget]
      rw [run_bind (run_shorten hhead rest trace)]
      simp only [NestedShell.spellOut, hhead, htarget]
      split <;> rfl

end Traced

theorem Aliases.expandFrom_ne_nil (aliases : Aliases) (limit : ℕ) (seen : List String)
    {words : List String} (h : words ≠ []) : aliases.expandFrom limit seen words ≠ [] := by
  induction limit generalizing seen words with
  | zero => exact h
  | succ limit ih =>
    obtain ⟨head, rest, rfl⟩ := List.exists_cons_of_ne_nil h
    rw [expandFrom]
    split
    · split
      · exact h
      · exact ih _ (List.cons_ne_nil _ _)
    · exact h

theorem spellOut_ne_nil {words : List String} (h : words ≠ []) : spellOut words ≠ [] := by
  unfold spellOut
  split
  · exact h
  · split
    · exact List.cons_ne_nil _ _
    · split
      · exact List.cons_ne_nil _ _
      · split <;> exact List.cons_ne_nil _ _

namespace Context

theorem resolve_of_expand {ctx : Context κ} {words rest : List String} {head : String}
    (hexpand : ctx.aliases.expand words = head :: rest)
    (hreserved : isReserved (words.headD "") = false) :
    ctx.resolve words = if head.toList.head? = some '#' then .comment
      else .invoke (spellOut (head :: rest))
        (ctx.commands.lookup ((spellOut (head :: rest)).headD "")) := by
  simp only [resolve, hreserved, hexpand, List.headD_cons, if_false, Bool.false_eq_true]

variable (ctx : Context κ) (words : List String) (vars : Variables) (screen : Transcript)

/-- No call looks for a first element in vain, and what it runs is what the statement resolves to:
one handler, or none. -/
theorem run_traceCall (trace : Trace κ) : (ctx.traceCall words vars screen).run trace =
    some (ctx.call words vars screen, ctx.runs words ++ trace) := by
  cases hreserved : isReserved (words.headD "") with
  | true =>
    have hresolve : ctx.resolve words = .refused := by rw [resolve, if_pos hreserved]
    rw [traceCall, if_pos hreserved, call, runs, hresolve]
    rfl
  | false =>
    have hwords : words ≠ [] := by
      rintro rfl
      cases hreserved
    have hne : ctx.aliases.expand words ≠ [] :=
      ctx.aliases.expandFrom_ne_nil ctx.aliases.size [] hwords
    obtain ⟨head, rest, hexpand⟩ := List.exists_cons_of_ne_nil hne
    obtain ⟨name, args, hname⟩ := List.exists_cons_of_ne_nil (spellOut_ne_nil hne)
    have hspell := Traced.run_spellOut (κ := κ) hne trace
    rw [hname, hexpand] at hspell
    rw [hexpand] at hname
    have hresolve := resolve_of_expand hexpand hreserved
    simp only [traceCall, hreserved, hexpand, if_false, Bool.false_eq_true]
    rw [Traced.run_bind (Traced.run_first head rest trace)]
    by_cases hcomment : head.toList.head? = some '#'
    · rw [if_pos hcomment] at hresolve ⊢
      rw [call, runs, hresolve]
      rfl
    · rw [if_neg hcomment, hname, List.headD_cons] at hresolve
      rw [if_neg hcomment, Traced.run_bind hspell,
        Traced.run_bind (Traced.run_first name args trace),
        Traced.run_bind (Traced.run_handle _ _ _ _ trace), call, runs, hresolve]
      rfl

end Context

theorem spellOut_of_shorthand {c : Char} {target : String} (hc : shorthand? c = some target)
    (word : String) (rest : List String) : spellOut ((String.singleton c ++ word) :: rest) =
      target :: if word = "" then rest else word :: rest := by
  by_cases hword : word = "" <;> simp [spellOut, hc, hword]

namespace Context

/-- What a statement runs with a shorthand at its head, before a word or by itself. -/
theorem resolve_of_shorthand {ctx : Context κ} {c : Char} {target : String}
    (hc : shorthand? c = some target) {words rest : List String} {word : String}
    (hexpand : ctx.aliases.expand words = (String.singleton c ++ word) :: rest)
    (hreserved : isReserved (words.headD "") = false) :
    ctx.resolve words = .invoke (target :: if word = "" then rest else word :: rest)
      (ctx.commands.lookup target) := by
  have hcomment : (String.singleton c ++ word).toList.head? ≠ some '#' := by
    rintro hhash
    obtain rfl : c = '#' := by simpa using hhash
    cases hc
  rw [resolve_of_expand hexpand hreserved, if_neg hcomment, spellOut_of_shorthand hc,
    List.headD_cons]

/-- The first characters that give a statement another meaning than its command's. -/
def marks : List Char := ['_', '#', '!', '%']

/-- A statement with a plain first word that is no alias runs the command of that word. -/
theorem resolve_of_plain {ctx : Context κ} {name : String} {c : Char}
    (hc : name.toList.head? = some c) (hmark : c ∉ marks) (halias : ctx.aliases.get? name = none)
    (args : List String) :
    ctx.resolve (name :: args) = .invoke (name :: args) (ctx.commands.lookup name) := by
  obtain ⟨word, hword⟩ := List.head?_eq_some_iff.mp hc
  have hne : c ≠ '_' ∧ c ≠ '#' ∧ c ≠ '!' ∧ c ≠ '%' := by simpa [marks] using hmark
  have hexpand : ctx.aliases.expand (name :: args) = name :: args :=
    Aliases.expand_of_unnamed (by simpa using halias)
  have hcomment : name.toList.head? ≠ some '#' := by simp [hc, hne]
  have hspell : spellOut (name :: args) = name :: args := by
    simp [spellOut, hword, shorthand?, hne]
  have hreserved : isReserved name = false := isReserved_eq_false hc hne.1
  rw [resolve_of_expand hexpand hreserved, if_neg hcomment, hspell, List.headD_cons]

theorem call_of_resolve {ctx : Context κ} {words args : List String} {command : Option (Command κ)}
    (h : ctx.resolve words = .invoke args command) (vars : Variables) (screen : Transcript) :
    ctx.call words vars screen = ctx.invoke args command vars screen ∧
      (ctx.traceCall words vars screen).run [] =
        some (ctx.invoke args command vars screen, [(ctx.handler command, ⟨args⟩)]) := by
  have hcall : ctx.call words vars screen = ctx.invoke args command vars screen := by rw [call, h]
  have hruns : ctx.runs words = [(ctx.handler command, ⟨args⟩)] := by rw [runs, h]
  exact ⟨hcall, by rw [run_traceCall, hcall, hruns, List.append_nil]⟩

theorem length_runs_le (ctx : Context κ) (words : List String) : (ctx.runs words).length ≤ 1 := by
  unfold runs
  split <;> simp

/-- A shorthand is a spelling of its command. Glued to a word that is not empty, or standing before
it, it is the command with that word for its first argument, as long as none of the three first
words is an alias: the calls have the same outcome. It is one as well when an alias has brought it
to the head of a statement. The handler of the command, or the fallback for want of one, is then run
once and nothing else is; and no call runs more than one handler or looks for a first element in
vain. -/
theorem call_of_shorthand {c : Char} {target : String}
    (hc : (c, target) ∈ [('!', "pipe"), ('%', "spawn")]) (ctx : Context κ) (vars : Variables)
    (screen : Transcript) :
    let command := ctx.commands.lookup target
    (∀ word rest, word ≠ "" →
      (∀ name ∈ [String.singleton c ++ word, String.singleton c, target],
        ctx.aliases.get? name = none) →
      ctx.call ((String.singleton c ++ word) :: rest) vars screen =
          ctx.call (target :: word :: rest) vars screen ∧
        ctx.call (String.singleton c :: word :: rest) vars screen =
          ctx.call (target :: word :: rest) vars screen ∧
        ctx.call (target :: word :: rest) vars screen =
          ctx.invoke (target :: word :: rest) command vars screen) ∧
    (∀ words word rest, isReserved (words.headD "") = false →
      ctx.aliases.expand words = (String.singleton c ++ word) :: rest →
      let args := target :: if word = "" then rest else word :: rest
      ctx.call words vars screen = ctx.invoke args command vars screen ∧
        (ctx.traceCall words vars screen).run [] =
          some (ctx.invoke args command vars screen, [(ctx.handler command, ⟨args⟩)])) ∧
    ∀ words, ∃ trace : Trace κ, trace.length ≤ 1 ∧
      (ctx.traceCall words vars screen).run [] = some (ctx.call words vars screen, trace) := by
  intro command
  obtain ⟨htarget, hmark, d, hd, hplain⟩ : shorthand? c = some target ∧ c ≠ '_' ∧
      ∃ d, target.toList.head? = some d ∧ d ∉ marks := by
    simp only [List.mem_cons, List.not_mem_nil, or_false, Prod.mk.injEq] at hc
    rcases hc with ⟨rfl, rfl⟩ | ⟨rfl, rfl⟩
    · exact ⟨rfl, by decide, 'p', by decide⟩
    · exact ⟨rfl, by decide, 's', by decide⟩
  have hunreserved (word : String) : isReserved (String.singleton c ++ word) = false :=
    isReserved_eq_false (by simp) hmark
  have hexpand (word : String) (rest : List String)
      (h : ctx.aliases.get? (String.singleton c ++ word) = none) :
      ctx.aliases.expand ((String.singleton c ++ word) :: rest) =
        (String.singleton c ++ word) :: rest :=
    Aliases.expand_of_unnamed (by simpa using h)
  refine ⟨fun word rest hword hnames => ?_, fun words word rest hreserved hexpand => ?_,
    fun words => ?_⟩
  · simp only [List.forall_mem_cons] at hnames
    obtain ⟨hglued, hsingle, halias, -⟩ := hnames
    have hcommand := resolve_of_plain hd hplain halias (word :: rest)
    have hone : ctx.resolve ((String.singleton c ++ word) :: rest) =
        .invoke (target :: word :: rest) command := by
      have hresolve := resolve_of_shorthand htarget (hexpand word rest hglued) (hunreserved word)
      rwa [if_neg hword] at hresolve
    have htwo : ctx.resolve (String.singleton c :: word :: rest) =
        .invoke (target :: word :: rest) command := by
      have hresolve := resolve_of_shorthand htarget
        (hexpand "" (word :: rest) (by rwa [String.append_empty])) (hunreserved "")
      rwa [String.append_empty, if_pos rfl] at hresolve
    rw [(call_of_resolve hone vars screen).1, (call_of_resolve htwo vars screen).1,
      (call_of_resolve hcommand vars screen).1]
    exact ⟨rfl, rfl, rfl⟩
  · exact call_of_resolve (resolve_of_shorthand htarget hexpand hreserved) vars screen
  · exact ⟨ctx.runs words, ctx.length_runs_le words, by rw [run_traceCall, List.append_nil]⟩

/-- A command with a shorthand, and an alias that begins with the shorthand. -/
def piping : List (Change Empty) :=
  [.command (.register "pipe" "Run." Standard.exit), .define "p" ["!!é", "-c"]]

/-- The word behind a shorthand may itself begin like one. -/
theorem call_of_shorthand_bangs :
    let ctx := after .empty { name := "main" } piping
    let handler := ctx.handler (ctx.commands.lookup "pipe")
    (∀ name ∈ ["!!é", "!", "pipe"], ctx.aliases.get? name = none) ∧
      ctx.aliases.expand ["p", "%"] = ["!!é", "-c", "%"] ∧
      ctx.call ["!!é", ""] {} {} = ctx.call ["pipe", "!é", ""] {} {} ∧
      ctx.call ["!", "!é", ""] {} {} = ctx.call ["pipe", "!é", ""] {} {} ∧
      (ctx.traceCall ["p", "%"] {} {}).run [] =
        some (ctx.call ["p", "%"] {} {}, [(handler, ⟨["pipe", "!é", "-c", "%"]⟩)]) := by
  intro ctx handler
  have hnames : ∀ name ∈ ["!!é", "!", "pipe"], ctx.aliases.get? name = none := by decide
  have hexpand : ctx.aliases.expand ["p", "%"] = ["!!é", "-c", "%"] := by decide
  have hshort : ('!', "pipe") ∈ [('!', "pipe"), ('%', "spawn")] := by decide
  obtain ⟨hspellings, haliased, -⟩ := call_of_shorthand hshort ctx {} {}
  obtain ⟨hglued, hapart, -⟩ := hspellings "!é" [""] (by decide) hnames
  obtain ⟨hcall, htrace⟩ := haliased ["p", "%"] "!é" ["-c", "%"] (by decide) hexpand
  exact ⟨hnames, hexpand, hglued, hapart, hcall ▸ htrace⟩

end Context

end NestedShell
