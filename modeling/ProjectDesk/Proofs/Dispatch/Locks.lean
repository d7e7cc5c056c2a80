import ProjectDesk.Dispatch.Registry

/-!
The locks of a registry. Every stateful instance has one lock, whatever topics it serves, no two
instances have the same, and an instance that is not stateful has none.
-/

namespace ProjectDesk.Registry

variable {σ : Type} {registry : Registry σ} {locked : List Nat}

/-- The lock of a subscriber is its place among the stateful instances. -/
def Placed (locked : List Nat) (r : RegisteredHandler σ) : Prop :=
  if r.subscriber.handler.stateful then
    ∃ lock, r.lock = some lock ∧ locked.idxOf? r.subscriber.number = some lock
  else r.lock = none

def AllPlaced (locked : List Nat) (topics : List (String × List (RegisteredHandler σ))) : Prop :=
  ∀ entries ∈ topics, ∀ r ∈ entries.2, Placed locked r

theorem idxOf?_append_left {number lock : Nat} {locked : List Nat} (more : List Nat)
    (h : locked.idxOf? number = some lock) : (locked ++ more).idxOf? number = some lock := by
  unfold List.idxOf? at *
  rw [List.findIdx?_append, h]
  rfl

theorem Placed.grown {r : RegisteredHandler σ} (h : Placed locked r) (more : List Nat) :
    Placed (locked ++ more) r := by
  unfold Placed at *
  split
  · rename_i stateful
    rw [if_pos stateful] at h
    obtain ⟨lock, own, place⟩ := h
    exact ⟨lock, own, idxOf?_append_left more place⟩
  · rename_i stateless
    rwa [if_neg stateless] at h

/-- A lock that was given stays; a new one is the next. -/
theorem lockOf_placed (locked : List Nat) (subscriber : HandlerInstance σ) :
    Placed (lockOf locked subscriber).2 ⟨subscriber, (lockOf locked subscriber).1⟩ ∧
      ∃ more, (lockOf locked subscriber).2 = locked ++ more := by
  unfold lockOf Placed
  split
  · split
    · rename_i lock place
      exact ⟨⟨lock, rfl, place⟩, [], (List.append_nil _).symm⟩
    · rename_i missing
      refine ⟨⟨locked.length, rfl, ?_⟩, _, rfl⟩
      unfold List.idxOf? at *
      rw [List.findIdx?_append, missing]
      simp
  · exact ⟨rfl, [], (List.append_nil _).symm⟩

theorem addTo_placed {topic : String} {entry : RegisteredHandler σ}
    {topics : List (String × List (RegisteredHandler σ))} (own : Placed locked entry)
    (h : AllPlaced locked topics) : AllPlaced locked (addTo topic entry topics) := by
  induction topics with
  | nil =>
      intro entries hentries r hr
      rw [List.mem_singleton.mp hentries] at hr
      rw [List.mem_singleton.mp hr]
      exact own
  | cons first rest ih =>
      obtain ⟨name, known⟩ := first
      have ofFirst : ∀ r ∈ known, Placed locked r := h _ (.head _)
      have ofRest : AllPlaced locked rest := fun entries hentries => h entries (.tail _ hentries)
      unfold addTo
      split
      · intro entries hentries r hr
        rcases List.mem_cons.mp hentries with rfl | hentries
        · rcases List.mem_append.mp hr with hr | hr
          · exact ofFirst r hr
          · rw [List.mem_singleton.mp hr]
            exact own
        · exact ofRest entries hentries r hr
      · intro entries hentries r hr
        rcases List.mem_cons.mp hentries with rfl | hentries
        · exact ofFirst r hr
        · exact ih ofRest entries hentries r hr

theorem buildFrom_placed {entries : List (Registration σ)} (h : AllPlaced locked registry.topics) :
    ∃ locked', AllPlaced locked' (buildFrom locked registry entries).topics := by
  induction entries generalizing locked registry with
  | nil => exact ⟨locked, h⟩
  | cons first rest ih =>
      obtain ⟨topic, subscriber⟩ := first
      obtain ⟨own, more, grown⟩ := lockOf_placed locked subscriber
      have known : AllPlaced (lockOf locked subscriber).2 registry.topics := by
        intro entries hentries r hr
        rw [grown]
        exact (h entries hentries r hr).grown more
      exact ih (addTo_placed own known)

theorem mem_topics_of_lookup {topic : String} {r : RegisteredHandler σ}
    (hr : r ∈ registry.lookup topic) : ∃ entries ∈ registry.topics, r ∈ entries.2 := by
  unfold lookup at hr
  cases found : registry.topics.lookup topic with
  | none => simp [found] at hr
  | some known =>
      obtain ⟨before, after, split, -⟩ := List.lookup_eq_some_iff.mp found
      rw [found] at hr
      refine ⟨(topic, known), ?_, hr⟩
      rw [split]
      exact List.mem_append_right _ (.head _)

/-- One lock for each stateful instance, and none for the others. -/
structure Locked (registry : Registry σ) : Prop where
  isSome : ∀ topic, ∀ r ∈ registry.lookup topic, r.lock.isSome = r.subscriber.handler.stateful
  eq_iff : ∀ topic topic', ∀ r ∈ registry.lookup topic, ∀ r' ∈ registry.lookup topic',
    r.subscriber.handler.stateful = true → r'.subscriber.handler.stateful = true →
      (r.lock = r'.lock ↔ r.subscriber.number = r'.subscriber.number)

theorem build_locked (entries : List (Registration σ)) : (build entries).Locked := by
  have nobody : AllPlaced [] ({} : Registry σ).topics := by simp [AllPlaced]
  obtain ⟨locked, placed⟩ : ∃ locked, AllPlaced locked (build entries).topics :=
    buildFrom_placed nobody
  have own (topic : String) (r : RegisteredHandler σ) (hr : r ∈ (build entries).lookup topic) :
      Placed locked r := by
    obtain ⟨known, member, hr⟩ := mem_topics_of_lookup hr
    exact placed known member r hr
  constructor
  · intro topic r hr
    have place := own topic r hr
    unfold Placed at place
    split at place
    · rename_i stateful
      obtain ⟨lock, has, -⟩ := place
      rw [has, stateful]
      rfl
    · rename_i stateless
      rw [Bool.not_eq_true] at stateless
      rw [place, stateless]
      rfl
  · intro topic topic' r hr r' hr' stateful stateful'
    have place := own topic r hr
    have place' := own topic' r' hr'
    unfold Placed at place place'
    rw [if_pos stateful] at place
    rw [if_pos stateful'] at place'
    obtain ⟨lock, has, at'⟩ := place
    obtain ⟨lock', has', at''⟩ := place'
    rw [has, has', Option.some.injEq]
    constructor
    · rintro rfl
      obtain ⟨_, one, -⟩ := List.idxOf?_eq_some_iff.mp at'
      obtain ⟨_, other, -⟩ := List.idxOf?_eq_some_iff.mp at''
      exact one.symm.trans other
    · intro same
      rw [same, at''] at at'
      exact (Option.some.inj at').symm

end ProjectDesk.Registry
