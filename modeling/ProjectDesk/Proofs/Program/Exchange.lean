import ProjectDesk.Program

/-!
What passes between a program and its surroundings. Several views of it: which exchanges lead from a
program to what is left of it, what holds of every complete sequence of exchanges, and which
questions are ever asked, at all or in view of what was exchanged before, and which of them come
last. None of them says who answers, so all of them hold when programs take turns.
-/

namespace ProjectDesk

/-- A question and what came back. -/
structure Exchange (I : Interface) where
  query : I.Query
  answer : I.Answer query

namespace Program

variable {I : Interface} {α β : Type}

def isDone : Program I α → Bool
  | .done _ => true
  | .ask _ _ => false

theorem isDone_iff {p : Program I α} : p.isDone = true ↔ ∃ a, p = .done a := by
  cases p with
  | done a => exact ⟨fun _ => ⟨a, rfl⟩, fun _ => rfl⟩
  | ask q next => exact ⟨(nomatch ·), fun ⟨_, h⟩ => nomatch h⟩

inductive Leads : Program I α → List (Exchange I) → Program I α → Prop
  | here (p : Program I α) : Leads p [] p
  | asked {q : I.Query} {next : I.Answer q → Program I α} {t : List (Exchange I)}
      {p : Program I α} (answer : I.Answer q) (rest : Leads (next answer) t p) :
      Leads (.ask q next) (⟨q, answer⟩ :: t) p

/-- One more question at the end of what was asked. -/
theorem Leads.ask {p : Program I α} {t : List (Exchange I)} {q : I.Query}
    {next : I.Answer q → Program I α} (h : p.Leads t (.ask q next)) (answer : I.Answer q) :
    p.Leads (t ++ [⟨q, answer⟩]) (next answer) := by
  generalize hp : Program.ask q next = last at h
  induction h with
  | here p =>
      subst hp
      exact .asked answer (.here _)
  | asked first _ ih => exact .asked first (ih hp)

theorem Leads.bind {p : Program I α} {f : α → Program I β} {t t' : List (Exchange I)} {a : α}
    {last : Program I β} (first : p.Leads t (.done a)) (rest : (f a).Leads t' last) :
    (p.bind f).Leads (t ++ t') last := by
  generalize ended : Program.done a = left at first
  induction first with
  | here p =>
      subst ended
      exact rest
  | asked answer _ ih => exact .asked answer (ih ended)

/-- Whenever the program ends, what was asked and the result are as required. -/
def Ensures : Program I α → (List (Exchange I) → α → Prop) → Prop
  | .done a, required => required [] a
  | .ask q next, required =>
      ∀ answer, (next answer).Ensures fun t a => required (⟨q, answer⟩ :: t) a

theorem Ensures.of_leads {p : Program I α} {required : List (Exchange I) → α → Prop}
    (h : p.Ensures required) {t : List (Exchange I)} {a : α} (leads : p.Leads t (.done a)) :
    required t a := by
  generalize hlast : Program.done a = last at leads
  induction leads generalizing required with
  | here p =>
      subst hlast
      exact h
  | asked answer _ ih => exact ih (h answer) hlast

theorem Ensures.mono {p : Program I α} {first second : List (Exchange I) → α → Prop}
    (h : p.Ensures first) (implies : ∀ t a, first t a → second t a) : p.Ensures second := by
  induction p generalizing first second with
  | done a => exact implies [] a h
  | ask q next ih => exact fun answer => ih answer (h answer) fun t a => implies _ a

theorem ensures_of_forall {p : Program I α} {required : List (Exchange I) → α → Prop}
    (always : ∀ t a, required t a) : p.Ensures required := by
  induction p generalizing required with
  | done a => exact always [] a
  | ask q next ih => exact fun answer => ih answer fun t => always _

theorem ensures_congr {p : Program I α} {first second : List (Exchange I) → α → Prop}
    (same : ∀ t a, first t a ↔ second t a) : p.Ensures first ↔ p.Ensures second :=
  ⟨fun h => h.mono fun t a => (same t a).mp, fun h => h.mono fun t a => (same t a).mpr⟩

theorem ensures_bind {p : Program I α} {f : α → Program I β}
    {required : List (Exchange I) → β → Prop} :
    (p.bind f).Ensures required ↔
      p.Ensures fun t a => (f a).Ensures fun t' b => required (t ++ t') b := by
  induction p generalizing required with
  | done a => exact Iff.rfl
  | ask q next ih => exact forall_congr' fun answer => ih answer

/-- Every question that is ever asked is one of those allowed. -/
def AsksOnly (allowed : I.Query → Prop) : Program I α → Prop
  | .done _ => True
  | .ask q next => allowed q ∧ ∀ answer, (next answer).AsksOnly allowed

theorem asksOnly_bind {allowed : I.Query → Prop} {p : Program I α} {f : α → Program I β}
    (first : p.AsksOnly allowed) (rest : ∀ a, (f a).AsksOnly allowed) :
    (p.bind f).AsksOnly allowed := by
  induction p with
  | done a => exact rest a
  | ask q next ih => exact ⟨first.1, fun answer => ih answer (first.2 answer)⟩

theorem AsksOnly.of_leads {allowed : I.Query → Prop} {p last : Program I α} (h : p.AsksOnly allowed)
    {t : List (Exchange I)} (leads : p.Leads t last) :
    (∀ e ∈ t, allowed e.query) ∧ last.AsksOnly allowed := by
  induction leads with
  | here p => exact ⟨by simp, h⟩
  | asked answer _ ih =>
      obtain ⟨asked, left⟩ := ih (h.2 answer)
      refine ⟨?_, left⟩
      intro e he
      rcases List.mem_cons.mp he with rfl | he
      · exact h.1
      · exact asked e he

theorem AsksOnly.mono {first second : I.Query → Prop} {p : Program I α} (h : p.AsksOnly first)
    (implies : ∀ q, first q → second q) : p.AsksOnly second := by
  induction p with
  | done a => trivial
  | ask q next ih => exact ⟨implies q h.1, fun answer => ih answer (h.2 answer)⟩

/-- Once a question of this kind was answered, the program has ended, and in the same way whatever
the answer was. -/
def EndsWith (last : I.Query → Prop) : Program I α → Prop
  | .done _ => True
  | .ask q next =>
      (last q → ∃ a, ∀ answer, next answer = .done a) ∧ ∀ answer, (next answer).EndsWith last

theorem AsksOnly.endsWith {last : I.Query → Prop} {p : Program I α}
    (h : p.AsksOnly fun q => ¬ last q) : p.EndsWith last := by
  induction p with
  | done a => trivial
  | ask q next ih => exact ⟨fun closing => absurd closing h.1, fun answer => ih answer (h.2 answer)⟩

theorem endsWith_bind {last : I.Query → Prop} {p : Program I α} {f : α → Program I β}
    (first : p.AsksOnly fun q => ¬ last q) (rest : ∀ a, (f a).EndsWith last) :
    (p.bind f).EndsWith last := by
  induction p with
  | done a => exact rest a
  | ask q next ih =>
      exact ⟨fun closing => absurd closing first.1, fun answer => ih answer (first.2 answer)⟩

theorem EndsWith.rest {last : I.Query → Prop} {p left : Program I α} (h : p.EndsWith last)
    {t : List (Exchange I)} (leads : p.Leads t left) : left.EndsWith last := by
  induction leads with
  | here p => exact h
  | asked answer _ ih => exact ih (h.2 answer)

/-- Two answers lead to the same, if they are the same wherever they matter. -/
theorem EndsWith.next_eq {last : I.Query → Prop} {q : I.Query} {next : I.Answer q → Program I α}
    (h : (Program.ask q next).EndsWith last) {first second : I.Answer q}
    (same : ¬ last q → first = second) : next first = next second := by
  by_cases closing : last q
  · obtain ⟨a, ended⟩ := h.1 closing
    rw [ended first, ended second]
  · rw [same closing]

theorem EndsWith.of_leads {last : I.Query → Prop} {p left : Program I α} (h : p.EndsWith last)
    {t : List (Exchange I)} (leads : p.Leads t left) {e : Exchange I} (he : e ∈ t)
    (closing : last e.query) : ∃ a, left = .done a := by
  induction leads with
  | here p => cases he
  | asked answer rest ih =>
      rcases List.mem_cons.mp he with rfl | he
      · obtain ⟨a, ended⟩ := h.1 closing
        rw [ended] at rest
        cases rest
        exact ⟨a, rfl⟩
      · exact ih (h.2 answer) he

/-- Every question that is ever asked is allowed in view of what was exchanged before it. -/
def Guarded (allowed : List (Exchange I) → I.Query → Prop) (before : List (Exchange I)) :
    Program I α → Prop
  | .done _ => True
  | .ask q next =>
      allowed before q ∧ ∀ answer, (next answer).Guarded allowed (before ++ [⟨q, answer⟩])

variable {allowed : List (Exchange I) → I.Query → Prop} {before : List (Exchange I)}

theorem AsksOnly.guarded {asked : I.Query → Prop} {p : Program I α} (h : p.AsksOnly asked)
    (implies : ∀ t q, asked q → allowed (before ++ t) q) : p.Guarded allowed before := by
  induction p generalizing before with
  | done a => trivial
  | ask q next ih =>
      refine ⟨?_, fun answer => ih answer (h.2 answer) fun t q' asked => ?_⟩
      · have first := implies [] q h.1
        rwa [List.append_nil] at first
      · rw [List.append_assoc]
        exact implies _ q' asked

theorem Guarded.asksOnly {asked : I.Query → Prop} {p : Program I α} (h : p.Guarded allowed before)
    (implies : ∀ t q, allowed t q → asked q) : p.AsksOnly asked := by
  induction p generalizing before with
  | done a => trivial
  | ask q next ih => exact ⟨implies _ q h.1, fun answer => ih answer (h.2 answer)⟩

theorem guarded_bind {p : Program I α} {f : α → Program I β} (first : p.Guarded allowed before)
    (rest : p.Ensures fun t a => (f a).Guarded allowed (before ++ t)) :
    (p.bind f).Guarded allowed before := by
  induction p generalizing before with
  | done a => simpa [Ensures] using rest
  | ask q next ih =>
      refine ⟨first.1, fun answer => ih answer (first.2 answer) ?_⟩
      refine (rest answer).mono fun t a guarded => ?_
      rw [List.append_assoc]
      exact guarded

theorem Guarded.of_leads {p last : Program I α} (h : p.Guarded allowed before)
    {t t' : List (Exchange I)} {e : Exchange I} (leads : p.Leads (t ++ e :: t') last) :
    allowed (before ++ t) e.query := by
  induction t generalizing p before with
  | nil =>
      cases leads with
      | asked answer rest =>
          rw [List.append_nil]
          exact h.1
  | cons first t ih =>
      cases leads with
      | @asked q next _ _ answer rest =>
          have later := ih (h.2 answer) rest
          rwa [List.append_assoc] at later

end Program
end ProjectDesk
