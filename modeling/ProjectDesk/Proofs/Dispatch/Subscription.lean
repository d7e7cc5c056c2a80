import ProjectDesk.Dispatch.Registry

/-!
Whom a topic reaches. What a registry finds for a topic are the subscribers that were registered for
it, in the order of their registration.
-/

namespace ProjectDesk.Registry

variable {σ : Type}

theorem lookup_addTo (topic name : String) (entry : RegisteredHandler σ)
    (topics : List (String × List (RegisteredHandler σ))) :
    (Registry.mk (addTo name entry topics)).lookup topic =
      (Registry.mk topics).lookup topic ++ if name == topic then [entry] else [] := by
  unfold lookup
  induction topics with
  | nil =>
      by_cases same : name = topic
      · simp [addTo, same]
      · have other : (topic == name) = false := beq_false_of_ne (Ne.symm same)
        simp [addTo, List.lookup_cons, same, other]
  | cons first rest ih =>
      obtain ⟨known, entries⟩ := first
      by_cases here : known = name
      · subst here
        by_cases same : known = topic
        · simp [addTo, same]
        · have other : (topic == known) = false := beq_false_of_ne (Ne.symm same)
          simp [addTo, List.lookup_cons, same, other]
      · by_cases same : known = topic
        · subst same
          simp [addTo, here, Ne.symm here]
        · have other : (topic == known) = false := beq_false_of_ne (Ne.symm same)
          simpa [addTo, List.lookup_cons, here, other] using ih

theorem lookup_buildFrom (locked : List Nat) (registry : Registry σ)
    (entries : List (Registration σ)) (topic : String) :
    ((buildFrom locked registry entries).lookup topic).map (·.subscriber) =
      (registry.lookup topic).map (·.subscriber) ++
        (entries.filter (·.topic == topic)).map (·.subscriber) := by
  induction entries generalizing locked registry with
  | nil => simp [buildFrom]
  | cons first rest ih =>
      obtain ⟨name, subscriber⟩ := first
      rw [buildFrom, ih, lookup_addTo, List.filter_cons]
      by_cases same : name = topic
      · simp [same]
      · simp [same]

theorem lookup_build (entries : List (Registration σ)) (topic : String) :
    ((build entries).lookup topic).map (·.subscriber) =
      (entries.filter (·.topic == topic)).map (·.subscriber) :=
  lookup_buildFrom [] {} entries topic

end ProjectDesk.Registry
