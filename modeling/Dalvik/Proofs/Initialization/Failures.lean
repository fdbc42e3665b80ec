import Dalvik.Proofs.Initialization.Ascent

/-!
# Accesses that fail

An access to a static field is checked before it has any effect, so one that is refused leaves
everything as it was. After that only the initialization of the class can fail, and it wraps
whatever its initializers fail with. So the kind of a failure tells which of the two happened, and
with it all that has changed.
-/

namespace Dalvik

open Run History

namespace StaticFields

variable {statics : StaticFields} {prepare : TypeDescriptor → Run Bool} {field : FieldId}
  {request : StaticRequest} {type : TypeDescriptor} {e : Execution} {failure : Failure}

/-- How an access may fail, and what it leaves: it is refused and leaves everything as it was, or
the class of the field cannot be initialized, and it leaves what that has left. -/
inductive AccessFails (statics : StaticFields) (prepare : TypeDescriptor → Run Bool)
    (request : StaticRequest) (field : FieldId) (e : Execution) : Failure → Execution → Prop where
  | refused {fault : Fault} (h : statics.Refused request fault) :
      AccessFails statics prepare request field e (.fault fault) e
  | unprepared {failure : Failure} {later : Execution}
      (h : prepare field.owner e = (.error failure, later)) :
      AccessFails statics prepare request field e failure later

/-! ## One access -/

/-- Once the class is prepared, an access does not fail any more. -/
theorem unprepared_of_error {α : Type} {rest : Run α}
    (hrest : ∀ e, ∃ answer, (rest e).1 = .ok answer)
    (h : ((prepare type >>= fun _ => rest) e).1 = .error failure) :
    prepare type e = (.error failure, ((prepare type >>= fun _ => rest) e).2) := by
  rw [bind_apply] at h ⊢
  generalize prepare type e = out at h ⊢
  obtain ⟨caught | prepared, later⟩ := out
  · obtain rfl : caught = failure := by cases h; rfl
    rfl
  · obtain ⟨answer, hok⟩ := hrest later
    cases hok.symm.trans h

theorem serveWith_fails (hfield : request.field? = some field)
    (h : (statics.serveWith prepare request e).1 = .error failure) :
    AccessFails statics prepare request field e failure
      (statics.serveWith prepare request e).2 := by
  rcases serveWith_eq statics hfield with ⟨fault, hrefused, hserve⟩ | ⟨rest, hrest, hserve⟩
  · rw [hserve] at h ⊢
    cases h
    exact .refused hrefused
  · rw [hserve] at h ⊢
    apply AccessFails.unprepared
    apply unprepared_of_error _ h
    intro e
    obtain ⟨answer, hanswer, -⟩ := hrest e
    exact ⟨answer, hanswer⟩

/-! ## What a failure tells -/

/-- A read or an assignment of a static field that fails, made from any state of a lineage and with
room for any number of initializations, says by the kind of its failure what it has changed. If
there is no such field, or the value does not fit, nothing at all has changed. Otherwise it fails
with the failure of the initialization of the class, which is always that some initializer failed,
whatever that one failed with. Then all that has changed was changed by the initialization, the end
of which is the latest thing that happened: nothing was read or assigned after it. -/
theorem failed_access_changes (statics : StaticFields) (hspares : statics.SparesRegisters)
    (nesting : Nat) {request : StaticRequest} {field : FieldId}
    (hfield : request.field? = some field) (e later : Execution) (failure : Failure)
    (h : (statics.serveWith (statics.initializeWithin nesting) request e).1 = .error failure)
    (hlater : (statics.serveWith (statics.initializeWithin nesting) request e).2 = later) :
    (∃ fault, failure = .fault fault ∧ statics.Refused request fault ∧
      (fault = .fieldNotFound field ∨ ∃ kind, fault = .typeMismatch field.type kind) ∧
      later = e) ∨
    ∃ culprit reason, failure = .fault (.initializerFailed culprit reason) ∧
      statics.initializeWithin nesting field.owner e = (.error failure, later) ∧
      e.lineage.isInitialized field.owner = false ∧
      later.lineage.isInitialized field.owner = true ∧
      later.lineage.history.head? = some (.ended field.owner false) ∧
      later.frame = e.frame := by
  have hfails := serveWith_fails hfield h
  rw [hlater] at hfails
  cases hfails with
  | refused hrefused =>
    refine .inl ⟨_, rfl, hrefused, ?_, rfl⟩
    cases hrefused with
    | notFound hother => exact .inl (by rw [Option.some.inj (hother.symm.trans hfield)])
    | mismatch => exact .inr ⟨_, by rw [Option.some.inj hfield]⟩
  | unprepared hprepare =>
    obtain ⟨culprit, reason, hreason⟩ :=
      failsWith_initializeWithin statics nesting field.owner e failure (by rw [hprepare])
    obtain ⟨⟨-, hnew⟩, hmarked, hlatest⟩ := initializeWithin_ended hprepare nofun
    have hframe : LeavesFrame (statics.initializeWithin nesting field.owner) :=
      initializeWithin_of compositional_leavesFrame hspares nesting field.owner
    have hleft := hframe e
    rw [hprepare] at hleft
    exact .inr ⟨culprit, reason, hreason, hprepare, hnew, hmarked, hlatest, hleft⟩

end StaticFields

namespace Sample

/-- A field that no class declares. -/
def missing : FieldId := ⟨base, "X", .int⟩

/-- The initializer of `base` reads `missing` and fails as that does, and the others do nothing. -/
def baseMisses : ClassInitializer := fun type =>
  if type = base then
    .ask (StaticRequest.read missing) fun
      | .ok _ => .done ()
      | .error failure => .fail failure
  else .done ()

theorem sparesRegisters_baseMisses : (machine baseMisses).statics.SparesRegisters := by
  rintro _ ⟨⟩ type
  unfold baseMisses
  split
  · exact ⟨trivial, fun answer => by cases answer <;> trivial⟩
  · trivial

end Sample

namespace StaticFields

/-- An initializer fails because it finds no field. The assignment that it was run for does not fail
for that reason, and stores nothing. -/
theorem failed_access_changes_wrapped :
    let statics := (Sample.machine Sample.baseMisses).statics
    let out := statics.write Sample.count (.int 7) default
    out.1 = .error (.fault (.initializerFailed Sample.base "static field not found: LB;->X:I")) ∧
      statics.initializeOnce Sample.derived default = (out.1.map fun _ => true, out.2) ∧
      out.2.lineage.static? Sample.count = none := by
  intro statics out
  have hfailure : out.1 =
      .error (.fault (.initializerFailed Sample.base "static field not found: LB;->X:I")) := rfl
  have hfield : (StaticRequest.write Sample.count (.int 7)).field? = some Sample.count := rfl
  refine ⟨hfailure, ?_, rfl⟩
  rcases failed_access_changes statics Sample.sparesRegisters_baseMisses statics.program.size
    hfield default out.2 _ hfailure rfl with
    ⟨_, ⟨⟩, -, ⟨⟨⟩⟩ | ⟨_, ⟨⟩⟩, -⟩ | ⟨_, _, -, hprepare, -⟩
  rw [hfailure]
  exact hprepare

end StaticFields

end Dalvik
