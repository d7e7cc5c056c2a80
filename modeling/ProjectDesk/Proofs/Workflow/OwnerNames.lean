import ProjectDesk.Proofs.Handlers.RequestMail
import ProjectDesk.Proofs.Workflow.Saga

/-!
The owners' present names. Requests are listed and got as they are, and after that each owner is
looked up in the directory once, in the order in which the requests name them, up to the first
look-up that fails. Only what is handed out is changed, and of it only the owners' names.
-/

namespace ProjectDesk

/-- The name of a user, where the directory knows one. -/
def Directory.username (directory : Directory) (id : Int) : Option String :=
  match directory id with
  | .ok (some user) => some user.username
  | _ => none

def Directory.renew (directory : Directory) (r : Request) : Request :=
  match directory.username r.ownerId with
  | some ownerName => { r with ownerName }
  | none => r

/-- The database as a question leaves it. -/
def Moment.left (now : Moment) : Ask → Database
  | .statement s => (now.database.perform now.reply.time s).2
  | .call _ | .settings | .announce _ _ => now.database

theorem Ask.Reads.left {q : Ask} (h : q.Reads) (now : Moment) : now.left q = now.database := by
  cases q with
  | call _ | settings | announce _ _ => rfl
  | statement s =>
      rw [Moment.left, Database.perform]
      split
      · rfl
      · cases s with
        | findLive _ | findAny _ | findNamed _ | list _ | count _ => rfl
        | insert _ | transition _ _ _ | renameOwner _ _ | softDelete _ => exact h.elim

namespace Operation

variable {α β : Type} {x : Operation α} {env : Nat → Moment} {t : List (Exchange Ask.interface)}

theorem attend_bind_of_error (f : α → Operation β) {e : RequestError}
    (h : x.attend env = (t, .error e)) : (x >>= f).attend env = (t, .error e) := by
  have both := Program.attend_bind (fun n => (env n).answer) x.run (ExceptT.bindCont f)
  rw [show x.run.attend _ = _ from h] at both
  exact both.trans (congrArg (·, _) (List.append_nil t))

theorem attend_bind_of_ok (f : α → Operation β) {a : α} (h : x.attend env = (t, .ok a)) :
    (x >>= f).attend env =
      (t ++ ((f a).attend fun n => env (n + t.length)).1,
        ((f a).attend fun n => env (n + t.length)).2) := by
  have both := Program.attend_bind (fun n => (env n).answer) x.run (ExceptT.bindCont f)
  rw [show x.run.attend _ = _ from h] at both
  exact both

theorem attend_statement (s : Statement) (env : Nat → Moment) :
    (statement s).attend env =
      ([⟨Ask.statement s, (env 0).answer (.statement s)⟩],
        ((env 0).answer (.statement s)).mapError .database) := by
  have queried : (query (.statement s)).attend env =
      ([⟨Ask.statement s, (env 0).answer (.statement s)⟩],
        .ok ((env 0).answer (.statement s))) := rfl
  rw [statement, attend_bind_of_ok _ queried]
  cases (env 0).answer (.statement s) <;> rfl

end Operation

namespace Workflow

open Operation

abbrev askOwner (id : Int) : Ask := .call (.findUser id)

/-- Whatever the directory was asked, it answered as it does. -/
def Consults (directory : Directory) (t : List (Exchange Ask.interface)) : Prop :=
  ∀ id answer, ⟨askOwner id, answer⟩ ∈ t → answer = directory id

/-- The names that are known are those in the directory. -/
def OwnerNames.Agrees (names : OwnerNames) (directory : Directory) : Prop :=
  ∀ known ∈ names, known.2 = directory.username known.1

def OwnerNames.owners (names : OwnerNames) : List Int :=
  names.map (·.1)

/-- The owners that are still to be looked up, each at its first request. -/
def pending (known : OwnerNames) (rows : List Request) : List Int :=
  ((rows.map (·.ownerId)).removeAll known.owners).eraseDups

variable {directory : Directory} {known names : OwnerNames} {rows : List Request} {r : Request}

theorem lookup_isSome_iff {id : Int} : (known.lookup id).isSome = true ↔ id ∈ known.owners := by
  rw [List.lookup_isSome_iff, OwnerNames.owners, List.mem_map]
  exact exists_congr fun p => and_congr_right fun _ => beq_iff_eq.trans eq_comm

/-- One more name, as the directory has it. -/
theorem OwnerNames.Agrees.learn (agrees : known.Agrees directory) {id : Int}
    {user : Option DirectoryUser} (ok : directory id = .ok user) :
    OwnerNames.Agrees (known ++ [(id, user.map (·.username))]) directory := by
  intro p hp
  rcases List.mem_append.mp hp with old | new
  · exact agrees p old
  · obtain rfl := List.mem_singleton.mp new
    cases user <;> simp [Directory.username, ok]

theorem pending_of_known (h : r.ownerId ∈ known.owners) :
    pending known (r :: rows) = pending known rows := by
  rw [pending, List.map_cons, List.cons_removeAll, if_neg (by simpa using h), pending]

theorem pending_of_unknown (h : r.ownerId ∉ known.owners) (name : Option String) :
    pending known (r :: rows) = r.ownerId :: pending (known ++ [(r.ownerId, name)]) rows := by
  have later : (((rows.map (·.ownerId)).removeAll known.owners).filter fun b => !b == r.ownerId) =
      (rows.map (·.ownerId)).removeAll (OwnerNames.owners (known ++ [(r.ownerId, name)])) := by
    rw [List.removeAll, List.filter_filter]
    refine List.filter_congr fun id _ => Bool.eq_iff_iff.mpr ?_
    simp [OwnerNames.owners, and_comm]
  rw [pending, List.map_cons, List.cons_removeAll, if_pos (by simpa using h), List.eraseDups_cons,
    later, pending]

theorem withOwnerName_eq (agrees : names.Agrees directory) (named : r.ownerId ∈ names.owners) :
    withOwnerName names r = directory.renew r := by
  obtain ⟨name, found⟩ := Option.isSome_iff_exists.mp (lookup_isSome_iff.mpr named)
  obtain ⟨before, after, split, -⟩ := List.lookup_eq_some_iff.mp found
  have same := agrees (r.ownerId, name) (by simp [split])
  rw [withOwnerName, found, Option.join_some, show name = _ from same]
  rfl

variable {α : Type} {owners : List Int} {t : List (Exchange Ask.interface)}

/-- What comes of looking up owners one after the other. -/
structure Inquiry (directory : Directory) (owners : List Int) (found : α → Prop)
    (t : List (Exchange Ask.interface)) (result : Except RequestError α) : Prop where
  complete : (∀ id ∈ owners, ∃ user, directory id = .ok user) →
    asked t = owners.map askOwner ∧ ∃ a, result = .ok a ∧ found a
  /-- The first look-up that fails is the last. -/
  broken : ∀ before id after e, owners = before ++ id :: after →
    (∀ i ∈ before, ∃ user, directory i = .ok user) → directory id = .error e →
      asked t = (before ++ [id]).map askOwner ∧
        result = .error (.dependency .loadOwner none e)

theorem Inquiry.nothing {found : α → Prop} {a : α} (h : found a) :
    Inquiry directory [] found [] (.ok a) where
  complete _ := ⟨rfl, a, rfl, h⟩
  broken before id after e split := by simp at split

theorem Inquiry.first {id : Int} {e : CollaboratorError} {found : α → Prop}
    (fails : directory id = .error e) :
    Inquiry directory (id :: owners) found [⟨askOwner id, .error e⟩]
      (.error (.dependency .loadOwner none e)) where
  complete all := by
    obtain ⟨user, ok⟩ := all id (.head _)
    cases fails.symm.trans ok
  broken before id' after e' split ok fails' := by
    cases before with
    | nil =>
        obtain ⟨rfl, -⟩ := List.cons.inj split
        cases fails.symm.trans fails'
        exact ⟨rfl, rfl⟩
    | cons i before =>
        obtain ⟨rfl, -⟩ := List.cons.inj split
        obtain ⟨user, ok⟩ := ok id (.head _)
        cases fails.symm.trans ok

theorem Inquiry.cons {id : Int} {user : Option DirectoryUser} {found : α → Prop}
    {result : Except RequestError α} (ok : directory id = .ok user)
    (h : Inquiry directory owners found t result) :
    Inquiry directory (id :: owners) found (⟨askOwner id, .ok user⟩ :: t) result where
  complete all := by
    obtain ⟨order, done⟩ := h.complete fun i hi => all i (.tail _ hi)
    exact ⟨congrArg _ order, done⟩
  broken before id' after e split others fails := by
    cases before with
    | nil =>
        obtain ⟨rfl, -⟩ := List.cons.inj split
        cases ok.symm.trans fails
    | cons i before =>
        obtain ⟨rfl, rest⟩ := List.cons.inj split
        obtain ⟨order, failed⟩ :=
          h.broken before id' after e rest (fun i hi => others i (.tail _ hi)) fails
        exact ⟨congrArg _ order, failed⟩

/-- What is made of the result afterwards. -/
theorem Inquiry.carry {β : Type} {found : α → Prop} {found' : β → Prop}
    {result : Except RequestError α} {result' : Except RequestError β}
    (h : Inquiry directory owners found t result)
    (ok : ∀ a, result = .ok a → found a → ∃ b, result' = .ok b ∧ found' b)
    (error : ∀ e, result = .error e → result' = .error e) :
    Inquiry directory owners found' t result' where
  complete all := by
    obtain ⟨order, a, done, ha⟩ := h.complete all
    exact ⟨order, ok a done ha⟩
  broken before id after e split others fails := by
    obtain ⟨order, failed⟩ := h.broken before id after e split others fails
    exact ⟨order, error _ failed⟩

/-- The names are the directory's. Among them are those known at first and those of all owners. -/
structure Gathered (directory : Directory) (known : OwnerNames) (rows : List Request)
    (names : OwnerNames) : Prop where
  agree : names.Agrees directory
  kept : known.owners ⊆ names.owners
  named : ∀ r ∈ rows, r.ownerId ∈ names.owners

theorem askOwners_inquires (rows : List Request) (agrees : known.Agrees directory) :
    (askOwners known rows).Ensures fun t result => Consults directory t →
      Inquiry directory (pending known rows) (Gathered directory known rows) t result := by
  induction rows generalizing known with
  | nil => exact fun _ => .nothing ⟨agrees, List.Subset.refl _, fun _ hr => nomatch hr⟩
  | cons r rows ih =>
      unfold askOwners
      split
      · rename_i seen
        have seen := lookup_isSome_iff.mp seen
        rw [pending_of_known seen]
        refine (ih agrees).mono fun t result inquired consults => ?_
        refine (inquired consults).carry (fun names done all => ⟨names, done, ?_⟩) fun _ => id
        exact ⟨all.agree, all.kept, List.forall_mem_cons.mpr ⟨all.kept seen, all.named⟩⟩
      · rename_i unseen
        have unseen : r.ownerId ∉ known.owners := fun h => unseen (lookup_isSome_iff.mpr h)
        rw [ensures_bind, ensures_call]
        refine ⟨fun user => ?_, fun e consults => ?_⟩
        · rw [pending_of_unknown unseen (user.map (·.username))]
          by_cases ok : directory r.ownerId = .ok user
          · refine (ih (agrees.learn ok)).mono fun t result inquired consults => .cons ok ?_
            have consults' : Consults directory t :=
              fun id answer h => consults id answer (.tail _ h)
            refine (inquired consults').carry
              (fun names done all => ⟨names, done, ?_⟩) fun _ => id
            have kept := all.kept
            rw [OwnerNames.owners, List.map_append] at kept
            obtain ⟨kept, new⟩ := List.append_subset.mp kept
            exact ⟨all.agree, kept, List.forall_mem_cons.mpr ⟨new (.head _), all.named⟩⟩
          · exact Program.ensures_of_forall fun t result consults =>
              absurd (consults _ _ (.head _)).symm ok
        · rw [pending_of_unknown unseen none]
          exact .first (consults _ _ (.head _)).symm

theorem pending_nil (rows : List Request) : pending [] rows = (rows.map (·.ownerId)).eraseDups := by
  simp [pending, OwnerNames.owners, List.removeAll]

/-- What is made of the names is settled by the directory. -/
theorem finish_inquires {rows : List Request} {finish : OwnerNames → α} {a : α}
    (settled : ∀ names : OwnerNames, names.Agrees directory →
      (∀ r ∈ rows, r.ownerId ∈ names.owners) → finish names = a) :
    (askOwners [] rows >>= fun names => pure (finish names)).Ensures fun t result =>
      Consults directory t →
        Inquiry directory (rows.map (·.ownerId)).eraseDups (· = a) t result := by
  have agrees : OwnerNames.Agrees [] directory := fun _ hp => nomatch hp
  rw [ensures_bind]
  refine (askOwners_inquires rows agrees).mono fun t result inquired => ?_
  rw [pending_nil] at inquired
  cases result with
  | error e =>
      refine fun consults => (inquired consults).carry (fun _ done => nomatch done) fun _ same => ?_
      cases same
      rfl
  | ok names =>
      intro consults
      rw [List.append_nil] at consults ⊢
      refine (inquired consults).carry (fun _ same all => ?_) fun _ failed => nomatch failed
      cases same
      exact ⟨_, rfl, settled names all.agree all.named⟩

theorem loadOwners_inquires (directory : Directory) (rows : List Request) :
    (loadOwners rows).Ensures fun t result => Consults directory t →
      Inquiry directory (rows.map (·.ownerId)).eraseDups (· = rows.map directory.renew) t result :=
  finish_inquires fun _ agree named =>
    List.map_congr_left fun r hr => withOwnerName_eq agree (named r hr)

/-- Some reading of requests, as they are and with the present names of their owners. The stores
that are found may be other ones at every question. -/
structure Renewed (directory : Directory) (owners : α → List Int) (renew : α → α)
    (env : Nat → Moment) (plain full : Operation α) : Prop where
  /-- Without the owners, no other subsystem is called. -/
  alone : ∀ c, Ask.call c ∉ asked (plain.attend env).1
  failed : ∀ e, (plain.attend env).2 = .error e → full.attend env = plain.attend env
  read : ∀ a, (plain.attend env).2 = .ok a →
    ∃ t, (full.attend env).1 = (plain.attend env).1 ++ t ∧
      Inquiry directory (owners a) (· = renew a) t (full.attend env).2
  /-- No question changes the store that it finds. -/
  untouched : ∀ q ∈ asked (full.attend env).1, ∀ now : Moment, now.left q = now.database

variable {env : Nat → Moment}

theorem consults_attend (steady : ∀ n id, (env n).reply.call (.findUser id) = directory id)
    (x : Operation α) : Consults directory (x.attend env).1 := by
  intro id answer h
  obtain ⟨n, found⟩ := List.mem_iff_getElem?.mp h
  exact (Program.answer_attend _ found).trans (steady n id)

theorem asked_attend {allowed : Ask → Prop} {x : Operation α} (h : x.AsksOnly allowed)
    (env : Nat → Moment) : ∀ q ∈ asked (x.attend env).1, allowed q := by
  intro q hq
  obtain ⟨e, he, rfl⟩ := List.mem_map.mp hq
  exact (Program.AsksOnly.of_leads h (Program.leads_attend _ _)).1 e he

theorem Renewed.of_bind {owners : α → List Int} {renew : α → α} {x : Operation α}
    {f : α → Operation α} (steady : ∀ n id, (env n).reply.call (.findUser id) = directory id)
    (looks : x.AsksOnly fun q => q.Reads ∧ ∀ c, q ≠ .call c) (reads : ∀ a, (f a).AsksOnly Ask.Reads)
    (inquires : ∀ a, (f a).Ensures fun t result => Consults directory t →
      Inquiry directory (owners a) (· = renew a) t result) :
    Renewed directory owners renew env (x >>= pure) (x >>= f) := by
  have alone := asked_attend (asksOnly_bind looks fun a => asksOnly_pure a) env
  have untouched := asked_attend
    (asksOnly_bind (Program.AsksOnly.mono looks fun _ asked => asked.1) reads) env
  refine ⟨fun c called => (alone _ called).2 c rfl, ?_, ?_, fun q hq => (untouched q hq).left⟩
  · intro e failed
    rcases attended : x.attend env with ⟨t, _ | a⟩
    · rw [attend_bind_of_error f attended, attend_bind_of_error pure attended]
    · rw [attend_bind_of_ok pure attended] at failed
      cases failed
  · intro a returned
    rcases attended : x.attend env with ⟨t, _ | _⟩
    · rw [attend_bind_of_error pure attended] at returned
      cases returned
    · rw [attend_bind_of_ok pure attended] at returned ⊢
      cases returned
      rw [attend_bind_of_ok f attended]
      refine ⟨_, congrArg (· ++ _) (List.append_nil t).symm, ?_⟩
      exact (inquires a).attend _ (consults_attend (fun n => steady (n + t.length)) (f a))

theorem find_looks (ref : RequestRef) :
    (find ref).AsksOnly fun q => q.Reads ∧ ∀ c, q ≠ .call c := by
  cases ref with
  | id _ | name _ =>
      refine asksOnly_bind (asksOnly_statement ⟨trivial, fun _ => nofun⟩) ?_
      intro found
      dsimp only
      split
      · exact asksOnly_pure _
      · exact asksOnly_throw _

/-- Nothing was read. -/
theorem Renewed.of_throw {owners : α → List Int} {renew : α → α} (e : RequestError) :
    Renewed directory owners renew env (throw e) (throw e) where
  alone _ called := nomatch called
  failed _ _ := rfl
  read _ returned := nomatch returned
  untouched _ called := nomatch called

theorem get_renewed (steady : ∀ n id, (env n).reply.call (.findUser id) = directory id)
    (ref : RequestRef) :
    Renewed directory (fun r => [r.ownerId]) directory.renew env (get ref false)
      (get ref true) := by
  let name (found : Request) : Operation Request :=
    askOwners [] [found] >>= fun names => pure (withOwnerName names found)
  refine Renewed.of_bind (f := name) steady (find_looks ref) (fun found => ?_) fun found => ?_
  · exact asksOnly_bind (askOwners_reads [] [found]) fun names => asksOnly_pure _
  · exact finish_inquires fun names agree named => withOwnerName_eq agree (named found (.head _))

theorem list_renewed (steady : ∀ n id, (env n).reply.call (.findUser id) = directory id)
    (q : Query) :
    Renewed directory (fun rows => (rows.map (·.ownerId)).eraseDups) (·.map directory.renew) env
      (list q false) (list q true) := by
  refine Renewed.of_bind (x := statement (.list q)) (f := loadOwners) steady
    (asksOnly_statement ⟨trivial, fun _ => nofun⟩) (fun rows => ?_) (loadOwners_inquires directory)
  exact asksOnly_bind (askOwners_reads [] rows) fun names => asksOnly_pure _

theorem owners_renewed {directory : Directory} {env : Nat → Moment}
    (steady : ∀ n id, (env n).reply.call (.findUser id) = directory id) :
    (∀ q, Renewed directory (fun rows => (rows.map (·.ownerId)).eraseDups) (·.map directory.renew)
      env (list q false) (list q true)) ∧
    (∀ ref, Renewed directory (fun r => [r.ownerId]) directory.renew env (get ref false)
      (get ref true)) ∧
    ∀ name, Renewed directory (fun r => [r.ownerId]) directory.renew env (getByName name false)
      (getByName name true) := by
  refine ⟨list_renewed steady, get_renewed steady, fun name => ?_⟩
  unfold getByName
  split
  · exact .of_throw _
  · exact get_renewed steady _

/-! Two of three requests are of one owner, and the other owner is not in the directory. -/

def annaOnly : Directory := fun id => .ok (if id = 1 then some ⟨1, "anna", ""⟩ else none)

def sharedRow (id ownerId : Int) (ownerName name : String) : Request :=
  let time : Time.Instant := ⟨⟨2026, 6, 1⟩, 12, 0, 0, 0⟩
  ⟨id, ownerId, ownerName, name, .notDetermined, false, .instant time, .instant time⟩

def sharedStore : Store :=
  ⟨[sharedRow 1 1 "ann" "a", sharedRow 2 2 "bob" "b", sharedRow 3 1 "ann" "c"], 3⟩

def sharedMoment : Moment where
  database := { store := sharedStore }
  reply :=
    { time := ⟨⟨2026, 6, 2⟩, 12, 0, 0, 0⟩
      config := {}
      scheduled := 0
      call := fun c =>
        match c with
        | .findUser id => annaOnly id
        | _ => .error (.failed "down") }

theorem answer_sharedMoment : sharedMoment.answer (.statement (.list { sort := .nameAsc })) =
    .ok [sharedRow 1 1 "ann" "a", sharedRow 2 2 "bob" "b", sharedRow 3 1 "ann" "c"] := by
  have selected : sharedStore.rows.filter (Query.selects { sort := .nameAsc }) =
      sharedStore.rows := by decide
  have ordered : sharedStore.rows.Pairwise fun r r' => SortOrder.nameAsc.before r r' = true := by
    decide
  have listed : sharedStore.list { sort := .nameAsc } = sharedStore.rows := by
    rw [Store.list, Query.sorted, selected, List.mergeSort_of_pairwise ordered]
    rfl
  exact congrArg (List.mapM Request.handOut) listed

theorem owners_renewed_repeated :
    let env : Nat → Moment := fun _ => sharedMoment
    (∀ n id, (env n).reply.call (.findUser id) = annaOnly id) ∧
      ((list { sort := .nameAsc } true).attend env).2 =
        .ok [sharedRow 1 1 "anna" "a", sharedRow 2 2 "bob" "b", sharedRow 3 1 "anna" "c"] ∧
      asked ((list { sort := .nameAsc } true).attend env).1 =
        [.statement (.list { sort := .nameAsc }), askOwner 1, askOwner 2] := by
  intro env
  have steady : ∀ n id, (env n).reply.call (.findUser id) = annaOnly id := fun _ _ => rfl
  have stated := attend_statement (.list { sort := .nameAsc }) env
  rw [show (env 0).answer _ = _ from answer_sharedMoment] at stated
  have plain := attend_bind_of_ok pure stated
  obtain ⟨t, order, inquiry⟩ :=
    ((owners_renewed steady).1 { sort := .nameAsc }).read _ (congrArg Prod.snd plain)
  obtain ⟨looked, _, done, rfl⟩ := inquiry.complete fun id _ => ⟨_, rfl⟩
  refine ⟨steady, done, ?_⟩
  rw [order, asked_append, looked]
  exact congrArg (fun attended => asked attended.1 ++ [askOwner 1, askOwner 2]) plain

end Workflow
end ProjectDesk
