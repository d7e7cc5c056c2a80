import ProjectDesk.Dispatch.Dispatcher
import ProjectDesk.Proofs.Config.Loading

/-!
How many handlers a configuration can have run at once. The check sees to it that there is one at
least, but it knows nothing of the greatest number of slots: each number from one up to what the
field can hold is accepted, and beyond the slot limit the dispatcher does not start.
-/

namespace ProjectDesk

namespace Executor

variable {τ ρ : Type} {n : Nat}

theorem new?_of_le (within : n ≤ slotLimit) :
    (new? n : Option (Executor τ ρ)) = some { slots := max n 1 } := by
  have bounded : max n 1 ≤ slotLimit := Nat.max_le.mpr ⟨within, by decide⟩
  exact if_pos bounded

theorem new?_of_lt (beyond : slotLimit < n) : (new? n : Option (Executor τ ρ)) = none := by
  have unbounded : ¬max n 1 ≤ slotLimit := fun h => by omega
  exact if_neg unbounded

end Executor

namespace Dispatcher

variable {σ : Type} {settings : DispatcherConfig}

theorem ofConfig?_of_le (within : settings.maxConcurrentHandlers ≤ Executor.slotLimit)
    (entries : List (Registration σ)) (world : σ) :
    ∃ d, ofConfig? settings entries world = some d ∧
      d.engine.executor.slots = max settings.maxConcurrentHandlers 1 := by
  simp [ofConfig?, new?, Executor.new?_of_le within]

theorem ofConfig?_of_lt (beyond : Executor.slotLimit < settings.maxConcurrentHandlers)
    (entries : List (Registration σ)) (world : σ) : ofConfig? settings entries world = none := by
  simp [ofConfig?, new?, Executor.new?_of_lt beyond]

end Dispatcher

namespace Config

variable {c : Config}

theorem positive_of_check (valid : c.check = .ok ()) : 0 < c.dispatcher.maxConcurrentHandlers := by
  rw [check] at valid
  split at valid
  · cases valid
  · exact Nat.pos_of_ne_zero ‹_›

theorem exists_ofText_handlers {n : Nat} (positive : 0 < n)
    (small : Range.unsigned64.has n = true) :
    ∃ text, ofText text = ({ dispatcher := { maxConcurrentHandlers := n } }, []) := by
  let c : Config := { dispatcher := { maxConcurrentHandlers := n } }
  have fits : c.Fits := { Fits.default with dispatcher := { Fits.default.dispatcher with
    maxConcurrentHandlers := small } }
  have valid : c.check = .ok () := by
    rw [check, if_neg (Nat.ne_of_gt positive)]
    rfl
  exact ⟨_, ofText_indented fits valid⟩

end Config

namespace Startup

variable {σ : Type} {entries : List (Registration σ)} {world : σ}

/-- A dispatcher starts with the slots that the configuration asks for, but not with more than there
can be. -/
structure StartsUpToLimit (config : Config) (entries : List (Registration σ)) (world : σ) :
    Prop where
  starts : config.dispatcher.maxConcurrentHandlers ≤ Executor.slotLimit →
    ∃ d, Dispatcher.ofConfig? config.dispatcher entries world = some d ∧
      d.engine.executor.slots = config.dispatcher.maxConcurrentHandlers
  fails : Executor.slotLimit < config.dispatcher.maxConcurrentHandlers →
    Dispatcher.ofConfig? config.dispatcher entries world = none

theorem startsUpToLimit_of_check {config : Config} (valid : config.check = .ok ()) :
    StartsUpToLimit config entries world where
  starts within := by
    obtain ⟨d, made, slots⟩ := Dispatcher.ofConfig?_of_le within entries world
    exact ⟨d, made, slots.trans (Nat.max_eq_left (Config.positive_of_check valid))⟩
  fails beyond := Dispatcher.ofConfig?_of_lt beyond entries world

/-- What passes the check starts up to the limit and not beyond it, and so does what a text gives.
Every number of handlers that the field can hold is given by a text. -/
theorem accepted_up_to_limit (entries : List (Registration σ)) (world : σ) :
    (∀ config : Config, config.check = .ok () → StartsUpToLimit config entries world) ∧
    (∀ text, StartsUpToLimit (Config.ofText text).1 entries world) ∧
    ∀ n : Nat, 0 < n → Range.unsigned64.has n = true →
      ∃ text, Config.ofText text = ({ dispatcher := { maxConcurrentHandlers := n } }, []) := by
  refine ⟨fun _ => startsUpToLimit_of_check, fun text => ?_, fun _ => Config.exists_ofText_handlers⟩
  exact startsUpToLimit_of_check (Config.sound_ofText text).2

theorem accepted_up_to_limit_greatest :
    (∃ d, Dispatcher.ofConfig? { maxConcurrentHandlers := Executor.slotLimit }
        ([] : List (Registration Unit)) () = some d ∧
      d.engine.executor.slots = Executor.slotLimit) ∧
    ∃ text, Config.ofText text =
      ({ dispatcher := { maxConcurrentHandlers := Executor.slotLimit } }, []) := by
  obtain ⟨accepted, -, written⟩ := accepted_up_to_limit ([] : List (Registration Unit)) ()
  let config : Config := { dispatcher := { maxConcurrentHandlers := Executor.slotLimit } }
  exact ⟨(accepted config rfl).starts (Nat.le_refl _), written _ (by decide) (by decide)⟩

theorem accepted_beyond_limit :
    let text := "\x7b\"dispatcher\":\x7b\"max_concurrent_handlers\":2305843009213693952\x7d\x7d"
    let config := (Config.ofText text).1
    config.check = .ok () ∧
      Executor.slotLimit < max 1 config.dispatcher.maxConcurrentHandlers ∧
      Dispatcher.ofConfig? config.dispatcher ([] : List (Registration Unit)) () = none := by
  intro text config
  have read : Config.ofText text =
      ({ dispatcher := { maxConcurrentHandlers := 2305843009213693952 } }, []) := by
    decide +kernel
  have same : config = { dispatcher := { maxConcurrentHandlers := 2305843009213693952 } } :=
    congrArg Prod.fst read
  rw [same]
  exact ⟨rfl, by decide, Dispatcher.ofConfig?_of_lt (by decide) [] ()⟩

end Startup
end ProjectDesk
