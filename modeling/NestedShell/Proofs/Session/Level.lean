import NestedShell.Proofs.Session.Requests
import NestedShell.Proofs.Text.Decimal

/-! The nesting level that the variables tell is the number of contexts, counted from what they
told before the first one was opened. -/
namespace NestedShell
variable {κ : Type}

/-- Whatever code the deed runs leaves the level alone. -/
def Deed.KeepsLevel (deed : Deed κ) (s : Session κ) : Prop :=
  match deed with
  | .run _ | .receive _ => (deed.perform s).vars.get? Variables.level = s.vars.get? Variables.level
  | _ => True

instance Deed.KeepsLevel.decidable (s : Session κ) :
    ∀ deed : Deed κ, Decidable (deed.KeepsLevel s)
  | .run _ | .receive _ => inferInstanceAs (Decidable (_ = _))
  | .read _ | .write _ | .enter _ | .leave _ => inferInstanceAs (Decidable True)

namespace Session

/-- The level that is told when a context is left, from the one that was told before. Without one it
is 0, as it is from 0 and below; the least number of all wraps around to the greatest. -/
def levelBelow : Option Int64 → Int
  | none => 0
  | some n => if n = Int64.minValue then Int64.maxValue.toInt else max (n.toInt - 1) 0

theorem toInt_add_one {n : Int64} (h : n.toInt < Int64.maxValue.toInt) :
    (n + 1).toInt = n.toInt + 1 := by
  have hmin := n.le_toInt
  rw [Int64.toInt_maxValue] at h
  rw [Int64.toInt_add, Int64.toInt_one]
  exact Int.bmod_eq_of_le (by omega) (by omega)

theorem toInt_sub_one {n : Int64} (h : n ≠ Int64.minValue) : (n - 1).toInt = n.toInt - 1 := by
  have hmin := n.le_toInt
  have hmax := n.toInt_lt
  have hne : n.toInt ≠ -2 ^ 63 := by
    rw [← Int64.toInt_minValue]
    exact fun heq => h (Int64.toInt_inj.mp heq)
  rw [Int64.toInt_sub, Int64.toInt_one]
  exact Int.bmod_eq_of_le (by omega) (by omega)

theorem toInt_max_zero (n : Int64) : (max n 0).toInt = max n.toInt 0 := by
  have hmax : max n 0 = if n ≤ 0 then 0 else n := rfl
  have hzero : n ≤ 0 ↔ n.toInt ≤ 0 := Int64.le_iff_toInt_le
  rw [hmax]
  split_ifs with h
  · rw [Int64.toInt_zero, Int.max_eq_right (hzero.mp h)]
  · rw [hzero] at h
    rw [Int.max_eq_left (by omega)]

/-- To lower the level changes no other variable. -/
theorem get?_lowered (name : String) (vars : Variables) : (lowered vars).get? name =
    if name = Variables.level then some (Text.decimal (levelBelow (level? vars)))
    else vars.get? name := by
  have hlevel : (max ((level? vars).getD 1 - 1) 0).toInt = levelBelow (level? vars) := by
    rcases level? vars with _ | n
    · decide
    · rw [Option.getD_some, levelBelow]
      split_ifs with hn
      · rw [hn]
        decide
      · rw [toInt_max_zero, toInt_sub_one hn]
  rw [lowered, tell, Variables.get?_set, hlevel]

/-- The level that the variables tell. An unset level counts as 0, and so does one that is no
integer. -/
def toldLevel (s : Session κ) : Int := ((level? s.vars).getD 0).toInt

/-- The variables tell the number of contexts, counted from `base`. -/
def Tells (base : Int) (s : Session κ) : Prop :=
  s.vars.get? Variables.level = some (Text.decimal (base + s.depth))

/-- The number of contexts, counted from `base`, can be read back. -/
def Fits (base : Int) (s : Session κ) : Prop := base + s.depth ≤ Int64.maxValue.toInt

instance (base : Int) (s : Session κ) : Decidable (Fits base s) :=
  inferInstanceAs (Decidable (_ ≤ _))

theorem toldLevel_le (s : Session κ) : s.toldLevel ≤ Int64.maxValue.toInt := Int64.toInt_le _

theorem Tells.level?_eq {base : Int} {s : Session κ} (h : Tells base s) (hbase : 0 ≤ base)
    (hfits : Fits base s) : ∃ n, level? s.vars = some n ∧ n.toInt = base + s.depth := by
  have hmin : Int64.minValue.toInt ≤ base + s.depth := by
    rw [Int64.toInt_minValue]
    omega
  refine ⟨Int64.ofInt (base + s.depth), ?_, ?_⟩
  · rw [level?, h, Option.bind_some, Text.int64?_decimal hmin hfits]
  · rw [Fits, Int64.toInt_maxValue] at hfits
    exact Int64.toInt_ofInt_of_le (by omega) (by omega)

theorem Tells.toldLevel_eq {base : Int} {s : Session κ} (h : Tells base s) (hbase : 0 ≤ base)
    (hfits : Fits base s) : s.toldLevel = base + s.depth := by
  obtain ⟨n, hlevel, hn⟩ := h.level?_eq hbase hfits
  rw [toldLevel, hlevel, Option.getD_some, hn]

theorem get?_level_push (ctx : Context κ) {s : Session κ}
    (hroom : s.toldLevel < Int64.maxValue.toInt) :
    (s.push ctx).vars.get? Variables.level = some (Text.decimal (s.toldLevel + 1)) := by
  have htold : (level? (s.vars.setDefault Variables.level "0")).getD 0 =
      (level? s.vars).getD 0 := by
    unfold Variables.setDefault
    split
    · rfl
    · rename_i hunset
      have hnone : s.vars.get? Variables.level = none :=
        Option.not_isSome_iff_eq_none.mp hunset
      simp [level?, hnone]
      decide
  have hraised : ((level? s.vars).getD 0 + 1).toInt = s.toldLevel + 1 := toInt_add_one hroom
  rw [push, raised, tell, Variables.get?_set, if_pos rfl, htold, hraised]

@[simp] theorem depth_push (ctx : Context κ) (s : Session κ) :
    (s.push ctx).depth = s.depth + 1 := by
  simp [push, depth]

@[simp] theorem depth_run (words : List String) (s : Session κ) :
    ((Deed.run words).perform s).depth = s.depth := by
  rcases hcontexts : s.contexts with _ | ⟨ctx, below⟩ <;> simp [Deed.perform, depth, hcontexts]

@[simp] theorem depth_receive (value : Option Value) (s : Session κ) :
    ((Deed.receive value).perform s).depth = s.depth := by
  rcases hcontexts : s.contexts with _ | ⟨ctx, below⟩ <;> simp [Deed.perform, depth, hcontexts]

@[simp] theorem depth_leave (value : Option Value) (s : Session κ) :
    ((Deed.leave value).perform s).depth = s.depth - 1 := by
  rcases hcontexts : s.contexts with _ | ⟨ctx, below⟩ <;> simp [Deed.perform, depth, hcontexts]

theorem Tells.leave {base : Int} {s : Session κ} (h : Tells base s) (hbase : 0 ≤ base)
    (hfits : Fits base s) (value : Option Value) :
    Tells base ((Deed.leave value).perform s) := by
  rcases hcontexts : s.contexts with _ | ⟨child, below⟩
  · simpa [Deed.perform, hcontexts] using h
  · have hdepth : s.depth = below.length + 1 := by simp [depth, hcontexts]
    have hlowered : (lowered s.vars).get? Variables.level =
        some (Text.decimal (base + below.length)) := by
      obtain ⟨n, hlevel, hn⟩ := h.level?_eq hbase hfits
      have hne : n ≠ Int64.minValue := by
        rintro rfl
        rw [Int64.toInt_minValue] at hn
        omega
      have hbelow : levelBelow (some n) = base + below.length := by
        rw [levelBelow, if_neg hne]
        omega
      rw [get?_lowered, if_pos rfl, hlevel, hbelow]
    simpa only [Deed.perform, hcontexts, Tells, depth] using hlowered

/-- What one deed does to the level, it does to the number of contexts. -/
theorem Tells.perform_deed {base : Int} {s : Session κ} (h : Tells base s) (hbase : 0 ≤ base)
    (hfits : Fits base s) {deed : Deed κ} (hkeeps : deed.KeepsLevel s)
    (hafter : Fits base (deed.perform s)) : Tells base (deed.perform s) := by
  cases deed with
  | read lexer => exact h
  | write screen => exact h
  | run words =>
    have hkeeps : _ = _ := hkeeps
    rw [Tells, hkeeps, depth_run]
    exact h
  | enter ctx =>
    have htold := h.toldLevel_eq hbase hfits
    have hdepth : base + s.depth + 1 = base + ((Deed.enter ctx).perform s).depth := by
      rw [Deed.perform, depth_push]
      omega
    rw [Fits, ← hdepth] at hafter
    rw [Tells, ← hdepth, ← htold]
    exact get?_level_push ctx (by omega)
  | leave value => exact h.leave hbase hfits value
  | receive value =>
    have hkeeps : _ = _ := hkeeps
    rw [Tells, hkeeps, depth_receive]
    exact h

/-- A session in which no context has been opened, with the level that there was at its start. -/
def Unopened (start s : Session κ) : Prop :=
  s.contexts = [] ∧ s.vars.get? Variables.level = start.vars.get? Variables.level

theorem Unopened.toldLevel_eq {start s : Session κ} (h : Unopened start s) :
    s.toldLevel = start.toldLevel := by
  rw [toldLevel, toldLevel, level?, level?, h.2]

theorem Unopened.perform_deed {start s : Session κ} (h : Unopened start s) {deed : Deed κ}
    (hafter : Fits start.toldLevel (deed.perform s)) :
    (Unopened start (deed.perform s) ∧ ∀ ctx, deed ≠ .enter ctx) ∨
      Tells start.toldLevel (deed.perform s) := by
  cases deed with
  | enter ctx =>
    refine .inr ?_
    have hdepth : (s.push ctx).depth = 1 := by
      rw [depth_push, depth, h.1, List.length_nil]
    rw [Deed.perform, Fits, hdepth] at hafter
    rw [Deed.perform, Tells, hdepth, ← h.toldLevel_eq]
    exact get?_level_push ctx (by rw [h.toldLevel_eq]; omega)
  | read lexer => exact .inl ⟨h, by simp⟩
  | write screen => exact .inl ⟨h, by simp⟩
  | run words => exact .inl ⟨by simpa [Deed.perform, h.1] using h, by simp⟩
  | leave value => exact .inl ⟨by simpa [Deed.perform, h.1] using h, by simp⟩
  | receive value => exact .inl ⟨by simpa [Deed.perform, h.1] using h, by simp⟩

/-- Deeds whose code leaves the level alone, and between which the level can be read back. -/
def KeepLevel (base : Int) (deeds : List (Deed κ)) (s : Session κ) : Prop :=
  ∀ m ∈ s.moments deeds, m.2.KeepsLevel m.1 ∧ Fits base (m.2.perform m.1)

instance (base : Int) (deeds : List (Deed κ)) (s : Session κ) :
    Decidable (KeepLevel base deeds s) :=
  inferInstanceAs (Decidable (∀ m ∈ s.moments deeds, _))

theorem KeepLevel.of_append {base : Int} {deeds more : List (Deed κ)} {s : Session κ}
    (h : KeepLevel base (deeds ++ more) s) : KeepLevel base deeds s := by
  intro m hm
  exact h m (by simp [hm])

theorem KeepLevel.fits {base : Int} {deeds : List (Deed κ)} {s : Session κ}
    (h : KeepLevel base deeds s) (hfits : Fits base s) : Fits base (s.perform deeds) := by
  induction deeds generalizing s with
  | nil => exact hfits
  | cons deed deeds ih =>
    exact ih (fun m hm => h m (List.mem_cons_of_mem _ hm)) (h _ List.mem_cons_self).2

theorem Tells.perform {base : Int} {deeds : List (Deed κ)} {s : Session κ} (h : Tells base s)
    (hbase : 0 ≤ base) (hfits : Fits base s) (hkeep : KeepLevel base deeds s) :
    Tells base (s.perform deeds) := by
  induction deeds generalizing s with
  | nil => exact h
  | cons deed deeds ih =>
    obtain ⟨hkeeps, hnext⟩ := hkeep _ List.mem_cons_self
    exact ih (h.perform_deed hbase hfits hkeeps hnext) hnext
      fun m hm => hkeep m (List.mem_cons_of_mem _ hm)

/-- Before the first context is opened the level stays, and after that it tells their number. -/
theorem Unopened.perform {start : Session κ} {deeds : List (Deed κ)} {s : Session κ}
    (h : Unopened start s) (hbase : 0 ≤ start.toldLevel)
    (hkeep : KeepLevel start.toldLevel deeds s) :
    (Unopened start (s.perform deeds) ∧ ∀ ctx, .enter ctx ∉ deeds) ∨
      Tells start.toldLevel (s.perform deeds) := by
  induction deeds generalizing s with
  | nil => exact .inl ⟨h, fun _ => List.not_mem_nil⟩
  | cons deed deeds ih =>
    have hrest : KeepLevel start.toldLevel deeds (deed.perform s) :=
      fun m hm => hkeep m (List.mem_cons_of_mem _ hm)
    rcases h.perform_deed (hkeep _ List.mem_cons_self).2 with ⟨hunopened, hne⟩ | htells
    · refine (ih hunopened hrest).imp_left fun ⟨hafter, hnone⟩ => ⟨hafter, fun ctx hmem => ?_⟩
      rcases List.mem_cons.mp hmem with heq | hmem
      · exact hne ctx heq.symm
      · exact hnone ctx hmem
    · exact .inr (htells.perform hbase (hkeep _ List.mem_cons_self).2 hrest)

/-- What a run of deeds on a new session, done up to some point, makes of the level. -/
theorem level_of_perform {start : Session κ} (hnew : start.contexts = [])
    (hbase : 0 ≤ start.toldLevel) {deeds : List (Deed κ)}
    (hkeep : KeepLevel start.toldLevel deeds start) :
    (start.perform deeds).toldLevel = start.toldLevel + (start.perform deeds).depth ∧
      ((∃ ctx, .enter ctx ∈ deeds) → Tells start.toldLevel (start.perform deeds)) := by
  have hfits : Fits start.toldLevel start := by
    simpa [Fits, depth, hnew] using start.toldLevel_le
  rcases Unopened.perform ⟨hnew, rfl⟩ hbase hkeep with ⟨hunopened, hnone⟩ | htells
  · constructor
    · simp [hunopened.toldLevel_eq, depth, hunopened.1]
    · rintro ⟨ctx, hctx⟩
      exact absurd hctx (hnone ctx)
  · exact ⟨htells.toldLevel_eq hbase (hkeep.fits hfits), fun _ => htells⟩

variable [Blueprint κ]

/-- The variables of a session that was new tell the number of its contexts, counted from what they
told at first, at each point of whatever is done for the requests: provided that no handler and no
hook changes the level, and that it remains an integer that can be read back. So when a context is
left, the level is again what it was before that context was entered. -/
theorem level_counts_contexts (start : Session κ) (requests : List (Request κ))
    (hnew : start.contexts = []) (hbase : 0 ≤ start.toldLevel)
    (hkeep : KeepLevel start.toldLevel (start.log requests) start) :
    (∀ made rest, requests = made ++ rest → (∃ ctx, .push ctx ∈ made) →
      Tells start.toldLevel (start.after made)) ∧
    (∀ done rest, start.log requests = done ++ rest →
      (start.perform done).toldLevel = start.toldLevel + (start.perform done).depth ∧
        ((∃ ctx, .enter ctx ∈ done) → Tells start.toldLevel (start.perform done))) ∧
    (∀ before ctx within value rest,
      start.log requests = before ++ .enter ctx :: (within ++ .leave value :: rest) →
      (start.perform (before ++ .enter ctx :: within)).depth = (start.perform before).depth + 1 →
        (start.perform (before ++ .enter ctx :: (within ++ [.leave value]))).toldLevel =
          (start.perform before).toldLevel) ∧
    ∀ s : Session κ, s.contexts = [] → ∀ value, s.pop value = (s, .error .quit) := by
  have hdone : ∀ done rest, start.log requests = done ++ rest →
      (start.perform done).toldLevel = start.toldLevel + (start.perform done).depth ∧
        ((∃ ctx, .enter ctx ∈ done) → Tells start.toldLevel (start.perform done)) :=
    fun done rest hlog => level_of_perform hnew hbase (hlog ▸ hkeep).of_append
  refine ⟨?_, hdone, ?_, ?_⟩
  · rintro made rest hrequests ⟨ctx, hctx⟩
    have hlog : start.log requests = start.log made ++ (start.after made).log rest := by
      rw [hrequests, log_append]
    rw [← perform_log]
    exact (hdone _ _ hlog).2 ⟨ctx, enter_mem_log hctx start⟩
  · intro before ctx within value rest hlog hdepth
    have hbefore := (hdone before _ hlog).1
    have hwhole : start.log requests =
        (before ++ .enter ctx :: (within ++ [.leave value])) ++ rest := by simp [hlog]
    have hsame : (start.perform (before ++ .enter ctx :: (within ++ [.leave value]))).depth =
        (start.perform before).depth := by
      have hsplit : start.perform (before ++ .enter ctx :: (within ++ [.leave value])) =
          (Deed.leave value).perform (start.perform (before ++ .enter ctx :: within)) := by simp
      rw [hsplit, depth_leave, hdepth, Nat.add_sub_cancel]
    rw [(hdone _ _ hwhole).1, hsame, hbefore]
  · intro s hs value
    simp [pop, hs]

/-- A session that starts with a level of its own. -/
def fourth : Session Nest := { vars := Variables.ofPairs [("SHLVL", "4")] }

/-- A context is opened, one in it by a statement, and left by the next one; then the first one is
left. -/
def nestAndExit : List (Request Nest) :=
  [.push (Nest.context "main"), .feed "nest; exit 5\n", .pop none]

theorem level_counts_contexts_nestAndExit :
    0 ≤ fourth.toldLevel ∧ KeepLevel fourth.toldLevel (fourth.log nestAndExit) fourth ∧
      Tells fourth.toldLevel (fourth.after nestAndExit) := by
  have hbase : 0 ≤ fourth.toldLevel := by decide
  have hkeep : KeepLevel fourth.toldLevel (fourth.log nestAndExit) fourth := by decide +kernel
  have hmade := (level_counts_contexts fourth nestAndExit rfl hbase hkeep).1
  exact ⟨hbase, hkeep, hmade nestAndExit [] rfl ⟨_, List.mem_cons_self⟩⟩

end Session

end NestedShell
