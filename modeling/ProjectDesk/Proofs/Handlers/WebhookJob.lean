import ProjectDesk.Handlers.WebhookJob
import ProjectDesk.Jobs.Http
import ProjectDesk.Proofs.Event.RoundTrip
import ProjectDesk.Proofs.Program.Attended

/-!
What the job service is given for a hook. One job is submitted, and in the text of its request the
payload stands as a text of its own, within a string. Both texts are read back as they were meant,
whatever quotes the payload has; only a payload that was wrapped in a text can have more brackets
than are read.
-/

namespace ProjectDesk

open Json Json.Document Jobs Handlers

/-- A call is all that is asked. -/
theorem Task.attend_call (env : Nat → (q : Errand.interface.Query) → Errand.interface.Answer q)
    (c : Call) :
    (Task.call c).run.attend env =
      ([⟨Errand.call c, env 0 (.call c)⟩], (env 0 (.call c)).mapError .collaborator) := by
  simp only [Task.call, ExceptT.run, ExceptT.mk, Program.query, bind, Program.bind, Program.attend]
  cases env 0 (.call c) <;> rfl

/-- A request is read as it was meant, if the parameters leave room for its own brackets. -/
theorem valueOf?_jobBody {job : JobSubmission}
    (whole : (Value.object job.parameters).isWhole = true)
    (kept : (Value.object job.parameters).Kept)
    (shallow : (Value.object job.parameters).depth ≤ depthLimit - 2) :
    valueOf? depthLimit (jobBody job).compact = some (jobBody job) := by
  have wholly : (jobBody job).isWhole = true := by
    rw [Value.isWhole] at whole
    simp [jobBody, Value.isWhole, Value.membersAreWhole, JobKind.toValue, whole]
  have keepable : (jobBody job).Kept := by
    simpa [jobBody, Value.Kept, Value.MembersKept, JobKind.toValue, wrapperName] using kept
  have depth : (jobBody job).depth ≤ depthLimit := by
    unfold depthLimit at shallow ⊢
    simp only [jobBody, JobKind.toValue, Value.depth, Value.memberDepths] at shallow ⊢
    omega
  rw [valueOf?_compact wholly keepable, if_pos depth]

namespace Handlers

variable {jobName : String} {e : HookEvent} {parameters : List (String × Value)}

/-- The parameters of a hook's job can stand in any order. -/
theorem valueOf?_hookJob (order : parameters.Perm (hookJob jobName e).parameters) :
    valueOf? depthLimit (jobBody { hookJob jobName e with parameters }).compact =
      some (jobBody { hookJob jobName e with parameters }) := by
  have names : (parameters.map (·.1)).Perm
      ["payload", "address", "auth_header", "skip_cert_verify"] := order.map (·.1)
  have plain : ∀ m ∈ parameters, m.2.isWhole = true ∧ m.2.Kept ∧ m.2.depth ≤ 0 := by
    intro m hm
    have given := order.subset hm
    simp only [hookJob, List.mem_cons, List.not_mem_nil, or_false] at given
    rcases given with rfl | rfl | rfl | rfl <;> exact ⟨rfl, trivial, Nat.le_refl _⟩
  refine valueOf?_jobBody ?_ ⟨?_, ?_, ?_⟩ ?_
  · exact Value.membersAreWhole_iff.mpr fun m hm => (plain m hm).1
  · exact names.nodup_iff.mpr (by decide)
  · intro first
    have given := names.subset (List.mem_of_head? first)
    revert given
    decide
  · exact Value.membersKept_iff.mpr fun m hm => (plain m hm).2.1
  · have flat := Value.memberDepths_le_iff.mpr fun m hm => (plain m hm).2.2
    exact Nat.le_trans (Nat.succ_le_succ flat) (by decide)

/-- A job that carries a hook to the job service, with the payload as a text. Its request is read
back whatever the order in which the parameters are written. -/
structure Carries (job : JobSubmission) (jobName : String) (e : HookEvent) (payload : String) :
    Prop where
  name : job.name = jobName
  kind : job.kind = .generic
  parameters : job.parameters.Perm
    [("payload", .string payload), ("address", .string e.target.address),
      ("auth_header", .string (e.target.authHeader.getD "")),
      ("skip_cert_verify", .bool e.target.skipCertVerify)]
  body : ∀ parameters, parameters.Perm job.parameters → ∀ base secret request,
    jobRequest? base secret { job with parameters } = some request →
      valueOf? depthLimit request.body.compact =
        some (.object [("job", .object [("name", .string jobName),
          ("parameters", .object parameters),
          ("metadata", .object [("kind", .string "Generic")])])])

theorem body_of_jobRequest? {base : String} {secret : Option String} {job : JobSubmission}
    {request : HttpRequest} (h : jobRequest? base secret job = some request) :
    request.body = jobBody job := by
  unfold jobRequest? at h
  split at h
  · cases h
    rfl
  · cases h

theorem hookJob_carries (jobName : String) (e : HookEvent) :
    Carries (hookJob jobName e) jobName e e.payload.compact := by
  refine ⟨rfl, rfl, .refl _, fun parameters order base secret request made => ?_⟩
  rw [body_of_jobRequest? made]
  exact valueOf?_hookJob order

/-- The payload's text gives the payload again, if there is room for its brackets; there is, unless
some of them were wrapped in a text. -/
theorem hook_delivered {text : String} {e : HookEvent} (h : DomainEvent.read text = some (.hook e))
    (whole : e.payload.isWhole = true) (jobName : String) :
    ∃ job payload,
      (∀ env, ((webhookJob jobName (.hook e)).run.attend env).1.map (·.query) =
        [.call (.submitJob job)]) ∧
      Carries job jobName e payload ∧
      (∀ room, valueOf? room payload = if e.payload.depth ≤ room then some e.payload else none) ∧
      ∀ d, Json.read text = some d → d.wrapsNothing = true →
        valueOf? depthLimit payload = some e.payload := by
  obtain ⟨d, parsed, understood⟩ := Option.bind_eq_some_iff.mp h
  obtain ⟨valid, shallow⟩ := DomainEvent.valid_of_ofDocument understood
  have kept : e.payload.Kept := HookEvent.Valid.payload valid
  have again := valueOf?_compact whole kept
  refine ⟨hookJob jobName e, e.payload.compact, fun env => ?_, hookJob_carries jobName e, again,
    fun d' parsed' plain => ?_⟩
  · have asked := Task.attend_call env (.submitJob (hookJob jobName e))
    exact congrArg (fun attended => attended.1.map (·.query)) asked
  · obtain rfl := Option.some.inj (parsed.symm.trans parsed')
    have within : e.payload.depth ≤ HookEvent.payloadRoom := shallow plain _ rfl
    rw [again, if_pos (Nat.le_trans within (Nat.sub_le _ _))]

/-- With quotes and a line break in a name and in a text. -/
def quotedHook : HookEvent :=
  ⟨"EMAIL", ⟨"ops@example.com", none, true⟩,
    .object [("say \"\\\"", .array [.whole (-7), .string "é\n\"", .null]), ("a", .bool true)],
    ⟨⟨2024, 3, 5⟩, 6, 7, 8, 0⟩⟩

theorem isWhole_quotedHook : quotedHook.payload.isWhole = true := rfl

theorem read_quotedHook :
    DomainEvent.read (DomainEvent.hook quotedHook).toValue.compact = some (.hook quotedHook) := by
  have valid : (DomainEvent.hook quotedHook).Valid := by
    refine ⟨?_, by decide⟩
    simp [quotedHook, Value.Kept, Value.MembersKept, Value.AllKept, Value.whole, IsKept,
      wrapperName]
  have whole : ∀ v ∈ (DomainEvent.hook quotedHook).payload?, v.isWhole = true := by
    rintro _ ⟨rfl⟩
    exact isWhole_quotedHook
  refine (DomainEvent.read_compact valid whole).trans (if_pos ?_)
  rintro _ ⟨rfl⟩
  decide

theorem hook_delivered_quoted :
    DomainEvent.read (DomainEvent.hook quotedHook).toValue.compact = some (.hook quotedHook) ∧
      quotedHook.payload.isWhole = true ∧
      ∃ job payload request, jobRequest? "http://jobs" none job = some request ∧
        valueOf? depthLimit request.body.compact =
          some (.object [("job", .object [("name", .string emailJob),
            ("parameters", .object job.parameters),
            ("metadata", .object [("kind", .string "Generic")])])]) ∧
        job.parameters.Perm [("payload", .string payload), ("address", .string "ops@example.com"),
          ("auth_header", .string ""), ("skip_cert_verify", .bool true)] ∧
        valueOf? depthLimit payload = some quotedHook.payload := by
  obtain ⟨job, payload, -, carries, again, -⟩ :=
    hook_delivered read_quotedHook isWhole_quotedHook emailJob
  have usable : isUsableUrl (jobsUrl "http://jobs") = true := by decide
  have made : jobRequest? "http://jobs" none job =
      some ⟨jobsUrl "http://jobs", none, jobBody job⟩ := by
    simp [jobRequest?, usable]
  exact ⟨read_quotedHook, isWhole_quotedHook, job, payload, _, made,
    carries.body _ (.refl _) _ _ _ made, carries.parameters, again depthLimit⟩

/-! Payloads that are deeper than may be read. -/

/-- One bracket around brackets in a text of their own. -/
def wrappedWithin : Value :=
  .array [.object [(wrapperName, .string (DomainEvent.nested 126).compact)]]

def deeperHook : HookEvent :=
  ⟨"", ⟨"", none, false⟩, DomainEvent.nested 127, ⟨⟨2024, 3, 5⟩, 6, 7, 8, 0⟩⟩

theorem value?_wrappedWithin :
    (ofValue wrappedWithin).value? HookEvent.payloadRoom = some deeperHook.payload := by
  have outer (v : Value) (room : Nat) : (ofValue (.array [v])).value? (room + 1) =
      ((ofValue v).value? room).map fun v => .array [v] := by
    cases inner : (ofValue v).value? room <;> unfold value? at inner <;>
      simp [ofValue, ofValues, value?, valueWith?, valuesWith?, inner]
  have inner := value?_wrapper (DomainEvent.isWhole_nested 126) (DomainEvent.kept_nested 126)
    (HookEvent.payloadRoom - 2)
  have depth : (DomainEvent.nested 126).depth ≤ depthLimit :=
    Nat.le_of_eq (DomainEvent.depth_nested 126)
  rw [if_pos depth] at inner
  exact (outer _ (HookEvent.payloadRoom - 1)).trans (congrArg _ inner)

theorem deep_payload_not_read_back :
    DomainEvent.read (DomainEvent.envelope .hook (deeperHook.around wrappedWithin)).compact =
        some (.hook deeperHook) ∧
      deeperHook.payload.isWhole = true ∧
      ("payload", .string deeperHook.payload.compact) ∈ (hookJob emailJob deeperHook).parameters ∧
      valueOf? depthLimit deeperHook.payload.compact = none := by
  have kept : deeperHook.payload.Kept := DomainEvent.kept_nested 127
  have whole : deeperHook.payload.isWhole = true := DomainEvent.isWhole_nested 127
  have depth : deeperHook.payload.depth = 128 := DomainEvent.depth_nested 127
  refine ⟨DomainEvent.read_around ⟨kept, by decide⟩ rfl value?_wrappedWithin, whole, .head _, ?_⟩
  rw [valueOf?_compact whole kept, depth, if_neg (by decide)]

end Handlers

end ProjectDesk
