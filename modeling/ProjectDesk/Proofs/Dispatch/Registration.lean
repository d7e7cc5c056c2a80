import ProjectDesk.Proofs.Dispatch.Locks
import ProjectDesk.Proofs.Dispatch.Subscription

/-!
What becomes of the calls that register handlers. A topic's list holds whoever was registered for
it, in the order in which they first were, and entries share a lock where they are one stateful
instance, on whatever topics they stand.
-/

namespace ProjectDesk

variable {σ : Type} {calls entries : List (Registration σ)} {topic : String} {number : Nat}

namespace Registration

/-- The entries after calls to register, from none. A handler that is given away with its call is an
instance that stands in no other call. -/
def registered (calls : List (Registration σ)) : List (Registration σ) :=
  calls.foldl (fun entries c => register c.topic c.subscriber entries) []

def isOf (topic : String) (number : Nat) (c : Registration σ) : Bool :=
  c.topic == topic && c.subscriber.number == number

theorem isOf_iff {c : Registration σ} :
    c.isOf topic number = true ↔ c.topic = topic ∧ c.subscriber.number = number := by
  simp [isOf]

/-- The place of the call that first registered an instance for a topic. -/
def firstCall (calls : List (Registration σ)) (topic : String) (number : Nat) : Nat :=
  calls.findIdx (isOf topic number)

theorem firstCall_append_of_mem {c : Registration σ} (hc : c ∈ calls)
    (more : List (Registration σ)) :
    firstCall (calls ++ more) c.topic c.subscriber.number =
        firstCall calls c.topic c.subscriber.number ∧
      firstCall calls c.topic c.subscriber.number < calls.length := by
  have there : firstCall calls c.topic c.subscriber.number < calls.length :=
    List.findIdx_lt_length_of_exists ⟨c, hc, isOf_iff.mpr ⟨rfl, rfl⟩⟩
  refine ⟨?_, there⟩
  unfold firstCall at *
  rw [List.findIdx_append, if_pos there]

theorem le_firstCall_append (fresh : ∀ c ∈ calls, c.isOf topic number = false)
    (more : List (Registration σ)) : calls.length ≤ firstCall (calls ++ more) topic number := by
  have absent : calls.findIdx (isOf topic number) = calls.length :=
    List.findIdx_eq_length.mpr fresh
  unfold firstCall
  rw [List.findIdx_append, absent, if_neg (Nat.lt_irrefl _)]
  exact Nat.le_add_left _ _

/-- Of the calls with the same topic and instance only the first has an entry. -/
structure Firsts (calls entries : List (Registration σ)) : Prop where
  called : ∀ e ∈ entries, e ∈ calls
  complete : ∀ c ∈ calls, ∃ e ∈ entries, e.isOf c.topic c.subscriber.number = true
  ordered : entries.Pairwise fun e e' =>
    firstCall calls e.topic e.subscriber.number < firstCall calls e'.topic e'.subscriber.number

namespace Firsts

theorem grown (h : Firsts calls entries) (more : List (Registration σ)) :
    entries.Pairwise fun e e' =>
      firstCall (calls ++ more) e.topic e.subscriber.number <
        firstCall (calls ++ more) e'.topic e'.subscriber.number := by
  refine h.ordered.imp_of_mem fun he he' less => ?_
  rw [(firstCall_append_of_mem (h.called _ he) more).1,
    (firstCall_append_of_mem (h.called _ he') more).1]
  exact less

/-- A call of a kind that there was before adds nothing. -/
theorem again (h : Firsts calls entries) {c : Registration σ}
    (known : entries.any (isOf c.topic c.subscriber.number) = true) :
    Firsts (calls ++ [c]) entries := by
  refine ⟨fun e he => List.mem_append_left _ (h.called e he), fun c' hc' => ?_, h.grown [c]⟩
  rcases List.mem_append.mp hc' with old | new
  · exact h.complete c' old
  · rw [List.mem_singleton.mp new]
    exact List.any_eq_true.mp known

/-- A call of a new kind adds its entry behind the others. -/
theorem first (h : Firsts calls entries) {c : Registration σ}
    (unknown : ¬ entries.any (isOf c.topic c.subscriber.number) = true) :
    Firsts (calls ++ [c]) (entries ++ [c]) := by
  have fresh : ∀ c' ∈ calls, c'.isOf c.topic c.subscriber.number = false := by
    intro c' hc'
    refine Bool.eq_false_iff.mpr fun same => ?_
    obtain ⟨e, he, alike⟩ := h.complete c' hc'
    rw [(isOf_iff.mp same).1, (isOf_iff.mp same).2] at alike
    exact unknown (List.any_eq_true.mpr ⟨e, he, alike⟩)
  refine ⟨fun e he => ?_, fun c' hc' => ?_, ?_⟩
  · rcases List.mem_append.mp he with old | new
    · exact List.mem_append_left _ (h.called e old)
    · exact List.mem_append_right _ new
  · rcases List.mem_append.mp hc' with old | new
    · obtain ⟨e, he, alike⟩ := h.complete c' old
      exact ⟨e, List.mem_append_left _ he, alike⟩
    · rw [List.mem_singleton.mp new]
      exact ⟨c, List.mem_append_right _ (.head _), isOf_iff.mpr ⟨rfl, rfl⟩⟩
  · refine List.pairwise_append.mpr
      ⟨h.grown [c], List.pairwise_singleton _ _, fun e he e' he' => ?_⟩
    obtain ⟨same, before⟩ := firstCall_append_of_mem (h.called e he) [c]
    rw [List.mem_singleton.mp he', same]
    exact Nat.lt_of_lt_of_le before (le_firstCall_append fresh [c])

theorem register (h : Firsts calls entries) (c : Registration σ) :
    Firsts (calls ++ [c]) (Registration.register c.topic c.subscriber entries) := by
  unfold Registration.register
  split
  · exact h.again ‹_›
  · exact h.first ‹_›

end Firsts

theorem registered_firsts (calls : List (Registration σ)) : Firsts calls (registered calls) := by
  have goOn (before entries : List (Registration σ)) (h : Firsts before entries) :
      Firsts (before ++ calls)
        (calls.foldl (fun entries c => register c.topic c.subscriber entries) entries) := by
    induction calls generalizing before entries with
    | nil => rwa [List.append_nil]
    | cons c calls ih =>
        rw [List.append_cons]
        exact ih _ _ (h.register c)
  exact goOn [] [] ⟨nofun, nofun, .nil⟩

end Registration

namespace Registry

theorem names_addTo (topic : String) (entry : RegisteredHandler σ)
    (topics : List (String × List (RegisteredHandler σ))) :
    (addTo topic entry topics).map (·.1) =
      if topic ∈ topics.map (·.1) then topics.map (·.1) else topics.map (·.1) ++ [topic] := by
  induction topics with
  | nil => rfl
  | cons first rest ih =>
      obtain ⟨name, known⟩ := first
      by_cases same : name = topic
      · simp [addTo, same]
      · by_cases there : topic ∈ rest.map (·.1)
        · simp_all [addTo]
        · simp_all [addTo, Ne.symm same]

/-- A name is written down when it is first met. -/
theorem topicNames_addTo {registry : Registry σ} (distinct : registry.topicNames.Nodup)
    (topic : String) (entry : RegisteredHandler σ) :
    (Registry.mk (addTo topic entry registry.topics)).topicNames.Nodup ∧
      ∀ name, name ∈ (Registry.mk (addTo topic entry registry.topics)).topicNames ↔
        name ∈ registry.topicNames ∨ topic = name := by
  unfold topicNames at *
  rw [names_addTo]
  split
  · rename_i known
    refine ⟨distinct, fun name => ⟨.inl, ?_⟩⟩
    rintro (there | rfl)
    · exact there
    · exact known
  · rename_i new
    refine ⟨List.nodup_append.mpr ⟨distinct, by simp, ?_⟩, by simp [eq_comm]⟩
    rintro name there _ last rfl
    exact new (List.mem_singleton.mp last ▸ there)

theorem topicNames_buildFrom (locked : List Nat) {registry : Registry σ}
    (distinct : registry.topicNames.Nodup) (entries : List (Registration σ)) :
    (buildFrom locked registry entries).topicNames.Nodup ∧
      ∀ name, name ∈ (buildFrom locked registry entries).topicNames ↔
        name ∈ registry.topicNames ∨ ∃ e ∈ entries, e.topic = name := by
  induction entries generalizing locked registry with
  | nil => simpa [buildFrom] using distinct
  | cons first rest ih =>
      obtain ⟨topic, subscriber⟩ := first
      obtain ⟨still, added⟩ :=
        topicNames_addTo distinct topic ⟨subscriber, (lockOf locked subscriber).1⟩
      obtain ⟨nodup, later⟩ := ih (lockOf locked subscriber).2 still
      exact ⟨nodup, fun name => (later name).trans (by simp [added, or_assoc])⟩

/-- Two entries have the same lock. -/
def SharesLock (r r' : RegisteredHandler σ) : Prop :=
  ∃ lock, r.lock = some lock ∧ r'.lock = some lock

/-- One instance, and a stateful one. -/
def OneStateful (r r' : RegisteredHandler σ) : Prop :=
  r.subscriber.number = r'.subscriber.number ∧
    r.subscriber.handler.stateful = true ∧ r'.subscriber.handler.stateful = true

theorem Locked.sharesLock_iff {registry : Registry σ} (h : registry.Locked) {topic topic' : String}
    {r r' : RegisteredHandler σ} (hr : r ∈ registry.lookup topic)
    (hr' : r' ∈ registry.lookup topic') : SharesLock r r' ↔ OneStateful r r' := by
  constructor
  · rintro ⟨lock, own, own'⟩
    have stateful : r.subscriber.handler.stateful = true := by rw [← h.isSome topic r hr, own]; rfl
    have stateful' : r'.subscriber.handler.stateful = true := by
      rw [← h.isSome topic' r' hr', own']
      rfl
    refine ⟨?_, stateful, stateful'⟩
    exact (h.eq_iff topic topic' r hr r' hr' stateful stateful').mp (own.trans own'.symm)
  · rintro ⟨same, stateful, stateful'⟩
    have alike := (h.eq_iff topic topic' r hr r' hr' stateful stateful').mpr same
    obtain ⟨lock, own⟩ := Option.isSome_iff_exists.mp ((h.isSome topic r hr).trans stateful)
    exact ⟨lock, own, alike.symm.trans own⟩

/-- A topic's list after calls to register. -/
structure Lists (calls : List (Registration σ)) (topic : String)
    (found : List (RegisteredHandler σ)) : Prop where
  /-- Whoever is on it was registered for this very topic. -/
  called : ∀ r ∈ found, ⟨topic, r.subscriber⟩ ∈ calls
  /-- Whoever was registered for the topic is on it. -/
  complete : ∀ c ∈ calls, c.topic = topic →
    ∃ r ∈ found, r.subscriber.number = c.subscriber.number
  /-- Each is on it once, and whose first call came earlier stands earlier. -/
  ordered : found.Pairwise fun r r' =>
    Registration.firstCall calls topic r.subscriber.number <
      Registration.firstCall calls topic r'.subscriber.number

theorem lists_build (firsts : Registration.Firsts calls entries) (topic : String) :
    Lists calls topic ((build entries).lookup topic) := by
  have found := lookup_build entries topic
  have entry (r : RegisteredHandler σ) (hr : r ∈ (build entries).lookup topic) :
      ∃ e ∈ entries, e.topic = topic ∧ e.subscriber = r.subscriber := by
    have there := List.mem_map_of_mem (f := (·.subscriber)) hr
    rw [found] at there
    simpa [and_assoc] using there
  constructor
  · intro r hr
    obtain ⟨e, he, rfl, same⟩ := entry r hr
    rw [← same]
    exact firsts.called e he
  · rintro c hc rfl
    obtain ⟨e, he, alike⟩ := firsts.complete c hc
    obtain ⟨on, same⟩ := Registration.isOf_iff.mp alike
    have there : e.subscriber ∈ ((build entries).lookup c.topic).map (·.subscriber) := by
      rw [found]
      exact List.mem_map_of_mem (List.mem_filter.mpr ⟨he, beq_iff_eq.mpr on⟩)
    obtain ⟨r, hr, is⟩ := List.mem_map.mp there
    exact ⟨r, hr, by rw [is, same]⟩
  · have ordered : ((entries.filter (·.topic == topic)).map (·.subscriber)).Pairwise fun x y =>
        Registration.firstCall calls topic x.number <
          Registration.firstCall calls topic y.number := by
      refine List.pairwise_map.mpr ((firsts.ordered.filter _).imp_of_mem fun he he' less => ?_)
      rw [List.mem_filter, beq_iff_eq] at he he'
      rwa [he.2, he'.2] at less
    rw [← found, List.pairwise_map] at ordered
    exact ordered

theorem build_registered (calls : List (Registration σ)) :
    let registry := build (Registration.registered calls)
    (∀ topic, Lists calls topic (registry.lookup topic)) ∧
      (registry.topicNames.Nodup ∧
        ∀ topic, topic ∈ registry.topicNames ↔ ∃ c ∈ calls, c.topic = topic) ∧
      (∀ topic, ∀ r ∈ registry.lookup topic,
        r.lock.isSome = r.subscriber.handler.stateful) ∧
      ∀ topic topic', ∀ r ∈ registry.lookup topic, ∀ r' ∈ registry.lookup topic',
        SharesLock r r' ↔ OneStateful r r' := by
  have firsts := Registration.registered_firsts calls
  have locked := build_locked (Registration.registered calls)
  have noTopic : ({} : Registry σ).topicNames.Nodup := .nil
  obtain ⟨distinct, names⟩ := topicNames_buildFrom [] noTopic (Registration.registered calls)
  refine ⟨lists_build firsts, ⟨distinct, fun topic => (names topic).trans ?_⟩, locked.isSome,
    fun _ _ _ hr _ hr' => locked.sharesLock_iff hr hr'⟩
  constructor
  · rintro (nobody | ⟨e, he, on⟩)
    · cases nobody
    · exact ⟨e, firsts.called e he, on⟩
  · rintro ⟨c, hc, rfl⟩
    obtain ⟨e, he, alike⟩ := firsts.complete c hc
    exact .inr ⟨e, he, (Registration.isOf_iff.mp alike).1⟩

end Registry

end ProjectDesk
