import ProjectDesk.Proofs.Request.Name
import ProjectDesk.Proofs.Text.Decimal
import ProjectDesk.Proofs.Workflow.Reservation
import ProjectDesk.Request.Ref

/-!
Addressing requests by a segment of a path. A segment is an id exactly where it is written as a
number that an id can be, and else a name; so of the live requests, those are not found by their
names whose names are such numbers. All of them are found by their ids, and by their names where
the segment is known to be one.
-/

namespace ProjectDesk

open Text (IsDigits WholeNumber placeValue)

namespace RequestRef

variable {raw : String} {n : Int}

def greatestId : Nat := 9223372036854775807

/-- From -2^63 to 2^63 - 1. -/
def IsId (n : Int) : Prop :=
  -(greatestId : Int) - 1 ≤ n ∧ n ≤ greatestId

instance (n : Int) : Decidable (IsId n) := inferInstanceAs (Decidable (_ ∧ _))

/-- The text stands for a number that an id can be. -/
def Numbers (raw : String) (n : Int) : Prop :=
  WholeNumber raw.toList n ∧ IsId n

theorem isId_iff : IsId n ↔ Range.signed64.has n = true := by
  rw [Range.has, Bool.and_eq_true, decide_eq_true_iff, decide_eq_true_iff]
  rfl

theorem ofSegment_of_numbers (numbers : Numbers raw n) : ofSegment raw false = .id n := by
  obtain ⟨number, isId⟩ := numbers
  simp only [ofSegment, Bool.false_eq_true, if_false, Text.readDecimal?_eq_some_iff.mpr number,
    isId_iff.mp isId, if_true]

theorem ofSegment_of_not_numbers (other : ¬ ∃ n, Numbers raw n) :
    ofSegment raw false = .name raw := by
  rw [ofSegment, if_neg Bool.false_ne_true]
  cases read : Text.readDecimal? raw.toList with
  | none => rfl
  | some n =>
      refine if_neg fun inRange => other ⟨n, ?_⟩
      exact ⟨Text.readDecimal?_eq_some_iff.mp read, isId_iff.mpr inRange⟩

theorem ofSegment_eq_id_iff : ofSegment raw false = .id n ↔ Numbers raw n := by
  refine ⟨fun read => ?_, ofSegment_of_numbers⟩
  by_cases numbers : ∃ m, Numbers raw m
  · obtain ⟨m, numbers⟩ := numbers
    rw [ofSegment_of_numbers numbers] at read
    cases read
    exact numbers
  · rw [ofSegment_of_not_numbers numbers] at read
    cases read

theorem ofSegment_decimal (isId : IsId n) : ofSegment (Text.decimal n) false = .id n := by
  refine ofSegment_of_numbers ⟨?_, isId⟩
  rw [Text.decimal, String.toList_ofList]
  exact Text.wholeNumber_decimalChars n

/-- No name begins with a sign. -/
theorem isDigits_of_numbers (valid : checkName raw = .ok ()) (numbers : Numbers raw n) :
    IsDigits raw.toList ∧ placeValue raw.toList ≤ greatestId := by
  have first := ((checkName_eq_ok_iff raw).mp valid).first
  obtain ⟨number, -, greatest⟩ := numbers
  generalize raw.toList = cs at number first
  cases number with
  | positive _ | negative _ => exact absurd (first _ rfl) (by decide)
  | unsigned digits => exact ⟨digits, Int.ofNat_le.mp greatest⟩

theorem ofSegment_of_checkName (valid : checkName raw = .ok ())
    (other : ¬ (IsDigits raw.toList ∧ placeValue raw.toList ≤ greatestId)) :
    ofSegment raw false = .name raw :=
  ofSegment_of_not_numbers fun ⟨_, numbers⟩ => other (isDigits_of_numbers valid numbers)

end RequestRef

theorem Store.Stocked.findNamed_of_live {s : Store} {made : List Origin} (stocked : s.Stocked made)
    {r : Request} (hr : r ∈ s.rows) (live : r.deleted = false) : s.findNamed r.name = some r := by
  cases found : s.findNamed r.name with
  | none => exact absurd (liveNamed_iff.mpr ⟨live, rfl⟩) (List.find?_eq_none.mp found r hr)
  | some r' =>
      obtain ⟨live', same⟩ := liveNamed_iff.mp (List.find?_some found)
      rw [stocked.eq_of_name (List.mem_of_find?_eq_some found) hr live' live same]

namespace Workflow

variable {s : Store} {r : Request} {ref : RequestRef}

namespace Reply

variable (reply : Reply)

/-- The request is got by the reference, with its owner's present name if one is asked for and the
directory has it. -/
structure Gets (ref : RequestRef) (r : Request) (s : Store) : Prop where
  alone : reply.carryOut (get ref false) s = (.ok r, s)
  withOwner : ∀ user, reply.call (.findUser r.ownerId) = .ok user →
    reply.carryOut (get ref true) s =
      (.ok { r with ownerName := (user.map (·.username)).getD r.ownerName }, s)

theorem carryOut_find_name (sound : s.Sound) {made : List Origin} (stocked : s.Stocked made)
    (hr : r ∈ s.rows) (live : r.deleted = false) :
    reply.carryOut (find (.name r.name)) s = (.ok r, s) := by
  have handed : (s.findNamed r.name).mapM Request.handOut = .ok (s.findNamed r.name) :=
    sound.mapM_handOut fun _ => List.mem_of_find?_eq_some
  rw [stocked.findNamed_of_live hr live] at handed
  rw [find, carryOut_statement, Statement.run, stocked.findNamed_of_live hr live, handed]
  rfl

theorem carryOut_find_id (sound : s.Sound) (hr : r ∈ s.rows) (live : r.deleted = false) :
    reply.carryOut (find (.id r.id)) s = (.ok r, s) := by
  rw [find, carryOut_statement, Statement.run, sound.findLive_handOut,
    sound.findLive_eq_some_iff.mpr ⟨hr, rfl, live⟩]
  rfl

theorem carryOut_call (step : WorkflowStep) (projectId : Option Int) (c : Call) (s : Store) :
    reply.carryOut (Operation.call step projectId c) s =
      ((reply.call c).mapError (.dependency step projectId), s) := by
  have asked : reply.carryOut (Operation.query (.call c)) s = (.ok (reply.call c), s) := rfl
  rw [Operation.call, carryOut_bind, asked]
  cases reply.call c <;> rfl

theorem carryOut_askOwners_single (r : Request) (s : Store) {user : Option DirectoryUser}
    (known : reply.call (.findUser r.ownerId) = .ok user) :
    reply.carryOut (askOwners [] [r]) s = (.ok [(r.ownerId, user.map (·.username))], s) := by
  rw [askOwners, if_neg (by simp), carryOut_bind, carryOut_call, known]
  rfl

theorem gets_of_find (found : reply.carryOut (find ref) s = (.ok r, s)) : reply.Gets ref r s where
  alone := by
    rw [get, carryOut_bind, found]
    rfl
  withOwner user known := by
    rw [get, carryOut_bind, found]
    dsimp only
    rw [if_pos rfl, carryOut_bind, reply.carryOut_askOwners_single r s known]
    have renewed : withOwnerName [(r.ownerId, user.map (·.username))] r =
        { r with ownerName := (user.map (·.username)).getD r.ownerName } := by
      cases user <;> simp [withOwnerName]
    exact congrArg (fun shown => (Except.ok shown, s)) renewed

end Reply
namespace Floor

variable {admits : Floor → Order → Prop} {f : Floor}

theorem addressed (reached : Reached admits f) (reply : Reply) :
    (∀ raw, (∀ n, RequestRef.ofSegment raw false = .id n ↔ RequestRef.Numbers raw n) ∧
      ((¬ ∃ n, RequestRef.Numbers raw n) → RequestRef.ofSegment raw false = .name raw) ∧
      RequestRef.ofSegment raw true = .name raw) ∧
    (∀ n, RequestRef.IsId n → RequestRef.ofSegment (Text.decimal n) false = .id n) ∧
    ∀ r ∈ f.store.rows, r.deleted = false →
      (¬ (IsDigits r.name.toList ∧ placeValue r.name.toList ≤ RequestRef.greatestId) →
        reply.Gets (.ofSegment r.name false) r f.store) ∧
      reply.Gets (.ofSegment r.name true) r f.store ∧
      (RequestRef.IsId r.id →
        reply.Gets (.ofSegment (Text.decimal r.id) false) r f.store) := by
  have sound := reached.coherent.sound
  refine ⟨fun raw => ⟨fun n => RequestRef.ofSegment_eq_id_iff,
    RequestRef.ofSegment_of_not_numbers, rfl⟩, fun n => RequestRef.ofSegment_decimal, ?_⟩
  intro r hr live
  have byName : reply.Gets (.name r.name) r f.store :=
    reply.gets_of_find (reply.carryOut_find_name sound reached.stocked hr live)
  refine ⟨fun other => ?_, byName, fun isId => ?_⟩
  · obtain ⟨o, ho, stems⟩ := reached.stocked.exists_origin hr
    have valid := (reached.coherent.valid_of_made ho).2
    rw [← stems.name_of_live live] at valid
    rw [RequestRef.ofSegment_of_checkName valid other]
    exact byName
  · rw [RequestRef.ofSegment_decimal isId]
    exact reply.gets_of_find (reply.carryOut_find_id sound hr live)

/-- Two requests are named with digits. One of the names is the id of another request, and one is
too great to be an id. -/
theorem addressed_digits :
    let reply : Reply := ⟨⟨⟨2026, 6, 1⟩, 12, 0, 0, 0⟩, {}, 0, fun _ => .error (.failed "down")⟩
    ∃ f r₁ r₂ r₃, Reached (fun _ _ => True) f ∧ f.store.rows = [r₁, r₂, r₃] ∧
      r₁.name = "alpha" ∧ r₂.name = "1" ∧ r₃.name = "9223372036854775808" ∧
      reply.Gets (.ofSegment "1" false) r₁ f.store ∧ reply.Gets (.ofSegment "1" true) r₂ f.store ∧
      reply.Gets (.ofSegment "alpha" false) r₁ f.store ∧
      reply.Gets (.ofSegment "9223372036854775808" false) r₃ f.store := by
  intro reply
  let moves : List Move := [.order (.create ⟨1, "ann", "alpha"⟩), .answer 0,
    .order (.create ⟨2, "bob", "1"⟩), .answer 1,
    .order (.create ⟨1, "ann", "9223372036854775808"⟩), .answer 2]
  have played : (play? (fun _ _ => True) reply moves {}).map
      (fun f => f.store.rows.map fun r => (r.name, r.id, r.deleted)) =
        some [("alpha", 1, false), ("1", 2, false), ("9223372036854775808", 3, false)] := by
    decide +kernel
  obtain ⟨f, runs, shown⟩ := Option.map_eq_some_iff.mp played
  obtain ⟨r₁, rest, rows, first, shown⟩ := List.map_eq_cons_iff.mp shown
  obtain ⟨r₂, rest, rfl, second, shown⟩ := List.map_eq_cons_iff.mp shown
  obtain ⟨r₃, rest, rfl, third, shown⟩ := List.map_eq_cons_iff.mp shown
  obtain rfl := List.map_eq_nil_iff.mp shown
  simp only [Prod.mk.injEq] at first second third
  obtain ⟨name₁, id₁, live₁⟩ := first
  obtain ⟨name₂, -, live₂⟩ := second
  obtain ⟨name₃, -, live₃⟩ := third
  obtain ⟨-, -, each⟩ := addressed (runs_of_play? runs) reply
  rw [rows] at each
  obtain ⟨named₁, -, byId₁⟩ := each r₁ (by simp) live₁
  obtain ⟨-, named₂, -⟩ := each r₂ (by simp) live₂
  obtain ⟨named₃, -, -⟩ := each r₃ (by simp) live₃
  rw [name₁] at named₁
  rw [id₁] at byId₁
  rw [name₂] at named₂
  rw [name₃] at named₃
  have letter : ¬ IsDigits "alpha".toList := fun digits =>
    absurd (digits.2 'a' (by decide)) (by decide)
  have great : ¬ placeValue "9223372036854775808".toList ≤ RequestRef.greatestId := by decide
  exact ⟨f, r₁, r₂, r₃, runs_of_play? runs, rows, name₁, name₂, name₃, byId₁ (by decide), named₂,
    named₁ fun h => letter h.1, named₃ fun h => great h.2⟩

end Floor
end Workflow
end ProjectDesk
