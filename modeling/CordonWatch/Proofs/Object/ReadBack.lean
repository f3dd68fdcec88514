import CordonWatch.Object.Autoscaler
import CordonWatch.Proofs.Json.Codec
import CordonWatch.Proofs.Time.Rfc3339

/-!
# Autoscalers that are read back

Evictions, specifications, conditions, statuses, metadata and whole autoscalers that were
read from a text are read back from what is written of them, but for what is cut off:
every time is written in whole seconds (`wholeSeconds`). What the server keeps in the
records of field owners is read back if its numbers are kept as they are (`IsSettled`).

What each of them has in its fields is what the value says it was read from, and a default
where the value says nothing (`Says`).
-/

namespace CordonWatch

open Json (ReadsBack Given)

theorem Instant.readsBack {t : Instant} (h : Given Instant.ofJson? t) :
    ReadsBack Instant.ofJson? Instant.toJson Instant.wholeSeconds t := by
  obtain ⟨v, -, hv⟩ := h
  obtain ⟨s, -, hread⟩ := Option.bind_eq_some_iff.mp hv
  refine ⟨.text _, rfl, ?_, ?_⟩
  · unfold Instant.ofJson? Instant.toJson
    rw [Json.asText, Option.bind_some]
    exact Instant.read_renderSeconds (Instant.nameable_of_read hread)
  · unfold Instant.toJson
    rw [Instant.renderSeconds_wholeSeconds]

/-! ### Evictions -/

/-- An eviction with its time cut to the whole second. -/
def Eviction.wholeSeconds (e : Eviction) : Eviction :=
  { e with evictionTime := e.evictionTime.map Instant.wholeSeconds }

/-- What a value says that gives an eviction. -/
structure Eviction.Says (v : Json) (e : Eviction) : Prop where
  podName : e.podName = ((v.fieldAt? 0 "podName").bind Json.asText).getD ""
  evictionTime : e.evictionTime = (v.fieldAt? 1 "evictionTime").bind Instant.ofJson?

theorem Eviction.exists_of_ofJson? {v : Json} {e : Eviction} (h : Eviction.ofJson? v = some e) :
    ∃ name time, v.closed? ["podName", "evictionTime"] = some [name, time] ∧
      Json.defaulted "" Json.asText name = some e.podName ∧
      Json.optional Instant.ofJson? time = some e.evictionTime := by
  obtain ⟨fields, hfields, h⟩ := Option.bind_eq_some_iff.mp h
  split at h
  next name time =>
    simp only [Option.bind_eq_bind, Option.bind_eq_some_iff] at h
    obtain ⟨_, hname, _, htime, h⟩ := h
    cases h
    exact ⟨name, time, hfields, hname, htime⟩
  · cases h

theorem Eviction.says {v : Json} {e : Eviction} (h : Eviction.ofJson? v = some e) : e.Says v := by
  obtain ⟨name, time, hclosed, hname, htime⟩ := exists_of_ofJson? h
  have hfields := Json.getElem?_of_closed? hclosed
  obtain rfl : name = v.fieldAt? 0 "podName" := Option.some.inj (hfields 0)
  obtain rfl : time = v.fieldAt? 1 "evictionTime" := Option.some.inj (hfields 1)
  exact ⟨Json.eq_of_defaulted hname, Json.eq_of_optional rfl htime⟩

theorem Eviction.closed?_toJson (e : Eviction) :
    e.toJson.closed? ["podName", "evictionTime"]
      = some [some (.text e.podName), e.evictionTime.map Instant.toJson] := by
  obtain ⟨podName, evictionTime⟩ := e
  cases evictionTime with
  | none => rfl
  | some t => rfl

theorem Eviction.readsBack {e : Eviction} (h : Given Eviction.ofJson? e) :
    ReadsBack Eviction.ofJson? Eviction.toJson Eviction.wholeSeconds e := by
  obtain ⟨v, hv, h⟩ := h
  obtain ⟨name, time, hclosed, -, htime⟩ := exists_of_ofJson? h
  have hformed := Json.numbers_of_closed? hv hclosed
  have hname : Json.FieldsWritable [("podName", .text e.podName)] :=
    List.forall_mem_singleton.mpr (.text _)
  have htime' : ∀ t ∈ e.evictionTime,
      ReadsBack Instant.ofJson? Instant.toJson Instant.wholeSeconds t :=
    fun t ht => Instant.readsBack (Json.given_of_optional (hformed time (by simp)) htime t ht)
  refine ⟨.object (hname.append (Json.fieldsWritable_present htime')), rfl, ?_, ?_⟩
  · unfold Eviction.ofJson?
    rw [Eviction.closed?_toJson]
    simp only [Option.bind_eq_bind, Option.bind_some, Json.defaulted, Json.asText,
      Json.optional_map htime']
    rfl
  · unfold Eviction.toJson Eviction.toJsonWith Eviction.wholeSeconds
    rw [Json.present_map htime']

/-! ### Metadata -/

theorem readsBack_texts (value : Option String) :
    ∀ s ∈ value, ReadsBack Json.asText .text id s :=
  fun s _ => Json.readsBack_text s

theorem readsBack_bools (value : Option Bool) : ∀ b ∈ value, ReadsBack Json.asBool .bool id b :=
  fun b _ => Json.readsBack_bool b

theorem OwnerReference.toJson_eq (r : OwnerReference) : r.toJson = .object (
    Json.present "apiVersion" .text (some r.apiVersion)
      ++ Json.present "blockOwnerDeletion" .bool r.blockOwnerDeletion
      ++ Json.present "controller" .bool r.controller
      ++ Json.present "kind" .text (some r.kind)
      ++ Json.present "name" .text (some r.name)
      ++ Json.present "uid" .text (some r.uid)) := by
  simp [toJson, Json.present]

/-- Any reference is read back as it is. -/
theorem OwnerReference.readsBack (r : OwnerReference) :
    ReadsBack OwnerReference.ofJson? OwnerReference.toJson id r := by
  refine ⟨?_, rfl, ?_, rfl⟩
  · rw [toJson_eq]
    exact .object (Json.fieldsWritable_present (readsBack_texts _)
      |>.append (Json.fieldsWritable_present (readsBack_bools _))
      |>.append (Json.fieldsWritable_present (readsBack_bools _))
      |>.append (Json.fieldsWritable_present (readsBack_texts _))
      |>.append (Json.fieldsWritable_present (readsBack_texts _))
      |>.append (Json.fieldsWritable_present (readsBack_texts _)))
  · rw [toJson_eq]
    unfold OwnerReference.ofJson?
    refine Option.bind_eq_some_iff.mpr ⟨_, rfl, ?_⟩
    refine Json.bind_entry? (readsBack_texts (some r.apiVersion)) (by simp) ?_
    refine Json.bind_entry? (readsBack_bools r.blockOwnerDeletion) (by simp) ?_
    refine Json.bind_entry? (readsBack_bools r.controller) (by simp) ?_
    refine Json.bind_entry? (readsBack_texts (some r.kind)) (by simp) ?_
    refine Json.bind_entry? (readsBack_texts (some r.name)) (by simp) ?_
    refine Json.bind_entry? (readsBack_texts (some r.uid)) (by simp) ?_
    simp only [Option.map_id_apply]
    rfl

/-- A record of field owners with its time cut to the whole second. -/
def ManagedFields.wholeSeconds (m : ManagedFields) : ManagedFields :=
  { m with time := m.time.map Instant.wholeSeconds }

/-- The numbers in a record of field owners are kept as they are. -/
def ManagedFields.IsSettled (m : ManagedFields) : Prop :=
  ∀ v ∈ m.fieldsV1, ∀ n ∈ v.numbers, n.IsSettled

instance (m : ManagedFields) : Decidable m.IsSettled :=
  inferInstanceAs (Decidable (∀ v ∈ m.fieldsV1, ∀ n ∈ v.numbers, n.IsSettled))

theorem numbers_of_open? {p : Decimal → Prop} {v : Json} (hv : v.Numbers p)
    {fields : List (String × Json)} (h : v.open? = some fields) :
    ∀ f ∈ fields, f.2.Numbers p := by
  cases hv with
  | object hnamed =>
    cases h
    exact hnamed
  | _ => cases h

theorem ManagedFields.readsBack {m : ManagedFields} (h : Given ManagedFields.ofJson? m)
    (hsettled : m.IsSettled) :
    ReadsBack ManagedFields.ofJson? ManagedFields.toJson ManagedFields.wholeSeconds m := by
  obtain ⟨v, hv, h⟩ := h
  unfold ManagedFields.ofJson? at h
  simp only [Option.bind_eq_bind, Option.bind_eq_some_iff] at h
  obtain ⟨fields, hfields, apiVersion, -, fieldsType, -, fieldsV1, howned, manager, -, operation, -,
    subresource, -, time, htime, h⟩ := h
  cases h
  have hformed := numbers_of_open? hv hfields
  -- Of this field alone the reader keeps what it knows no form for.
  have howned' : ∀ w ∈ fieldsV1, ReadsBack (Json.kept? nestingLimit) id id w := by
    intro w hw
    obtain ⟨f, hf, hnull, hkept⟩ := Json.exists_of_entry? howned w hw
    exact Json.readsBack_kept (hformed f hf) hnull hkept (.of_forall w (hsettled w hw))
  have htime' : ∀ t ∈ time, ReadsBack Instant.ofJson? Instant.toJson Instant.wholeSeconds t :=
    fun t ht => Instant.readsBack (Json.given_of_entry? hformed htime t ht)
  refine ⟨?_, rfl, ?_, ?_⟩
  · exact .object (Json.fieldsWritable_present (readsBack_texts apiVersion)
      |>.append (Json.fieldsWritable_present (readsBack_texts fieldsType))
      |>.append (Json.fieldsWritable_present howned')
      |>.append (Json.fieldsWritable_present (readsBack_texts manager))
      |>.append (Json.fieldsWritable_present (readsBack_texts operation))
      |>.append (Json.fieldsWritable_present (readsBack_texts subresource))
      |>.append (Json.fieldsWritable_present htime'))
  · unfold ofJson? toJson
    refine Option.bind_eq_some_iff.mpr ⟨_, rfl, ?_⟩
    refine Json.bind_entry? (readsBack_texts apiVersion) (by simp) ?_
    refine Json.bind_entry? (readsBack_texts fieldsType) (by simp) ?_
    refine Json.bind_entry? howned' (by simp) ?_
    refine Json.bind_entry? (readsBack_texts manager) (by simp) ?_
    refine Json.bind_entry? (readsBack_texts operation) (by simp) ?_
    refine Json.bind_entry? (readsBack_texts subresource) (by simp) ?_
    refine Json.bind_entry? htime' (by simp) ?_
    simp only [Option.map_id_apply]
    rfl
  · unfold toJson wholeSeconds
    rw [Json.present_map htime']

/-- Metadata with its times cut to whole seconds. -/
def ObjectMeta.wholeSeconds (m : ObjectMeta) : ObjectMeta :=
  { m with
    creationTimestamp := m.creationTimestamp.map Instant.wholeSeconds
    deletionTimestamp := m.deletionTimestamp.map Instant.wholeSeconds
    managedFields := m.managedFields.map (List.map ManagedFields.wholeSeconds) }

/-- The numbers in the records of field owners are kept as they are. -/
def ObjectMeta.IsSettled (m : ObjectMeta) : Prop :=
  ∀ l ∈ m.managedFields, ∀ f ∈ l, f.IsSettled

instance (m : ObjectMeta) : Decidable m.IsSettled :=
  inferInstanceAs (Decidable (∀ l ∈ m.managedFields, ∀ f ∈ l, f.IsSettled))

theorem ObjectMeta.readsBack {m : ObjectMeta} (h : Given ObjectMeta.ofJson? m)
    (hsettled : m.IsSettled) :
    ReadsBack ObjectMeta.ofJson? ObjectMeta.toJson ObjectMeta.wholeSeconds m := by
  obtain ⟨v, hv, h⟩ := h
  obtain ⟨fields, hfields, h⟩ := Option.bind_eq_some_iff.mp h
  obtain ⟨annotations, -, h⟩ := Option.bind_eq_some_iff.mp h
  obtain ⟨creation, hcreation, h⟩ := Option.bind_eq_some_iff.mp h
  obtain ⟨grace, hgrace, h⟩ := Option.bind_eq_some_iff.mp h
  obtain ⟨deletion, hdeletion, h⟩ := Option.bind_eq_some_iff.mp h
  obtain ⟨finalizers, -, h⟩ := Option.bind_eq_some_iff.mp h
  obtain ⟨generateName, -, h⟩ := Option.bind_eq_some_iff.mp h
  obtain ⟨generation, hgeneration, h⟩ := Option.bind_eq_some_iff.mp h
  obtain ⟨labels, -, h⟩ := Option.bind_eq_some_iff.mp h
  obtain ⟨managed, hmanaged, h⟩ := Option.bind_eq_some_iff.mp h
  obtain ⟨name, -, h⟩ := Option.bind_eq_some_iff.mp h
  obtain ⟨ns, -, h⟩ := Option.bind_eq_some_iff.mp h
  obtain ⟨owners, -, h⟩ := Option.bind_eq_some_iff.mp h
  obtain ⟨version, -, h⟩ := Option.bind_eq_some_iff.mp h
  obtain ⟨link, -, h⟩ := Option.bind_eq_some_iff.mp h
  obtain ⟨uid, -, h⟩ := Option.bind_eq_some_iff.mp h
  cases h
  have hformed := numbers_of_open? hv hfields
  have htime : ∀ {name time}, Json.entry? name Instant.ofJson? fields = some time → ∀ t ∈ time,
      ReadsBack Instant.ofJson? Instant.toJson Instant.wholeSeconds t :=
    fun h t ht => Instant.readsBack (Json.given_of_entry? hformed h t ht)
  have hint : ∀ {name n}, Json.entry? name Json.asInt64 fields = some n → ∀ i ∈ n,
      ReadsBack Json.asInt64 Json.int id i :=
    fun h i hi => Json.readsBack_int (Json.given_of_entry? hformed h i hi)
  have htable : ∀ (table : Option (Table String String)), ∀ t ∈ table,
      ReadsBack Json.textTable Json.ofTextTable id t :=
    fun _ t _ => Json.readsBack_textTable t
  have hlist : ∀ l ∈ finalizers,
      ReadsBack (Json.listOf Json.asText) (Json.ofList .text) (List.map id) l :=
    fun l _ => Json.readsBack_listOf fun s _ => Json.readsBack_text s
  have howners : ∀ l ∈ owners, ReadsBack (Json.listOf OwnerReference.ofJson?)
      (Json.ofList OwnerReference.toJson) (List.map id) l :=
    fun l _ => Json.readsBack_listOf fun r _ => OwnerReference.readsBack r
  have hfields' : ∀ l ∈ managed, ReadsBack (Json.listOf ManagedFields.ofJson?)
      (Json.ofList ManagedFields.toJson) (List.map ManagedFields.wholeSeconds) l :=
    fun l hl => Json.readsBack_listOf fun f hf => ManagedFields.readsBack
      (Json.given_of_listOf (Json.given_of_entry? hformed hmanaged l hl) f hf) (hsettled l hl f hf)
  refine ⟨?_, rfl, ?_, ?_⟩
  · exact .object (Json.fieldsWritable_present (htable annotations)
      |>.append (Json.fieldsWritable_present (htime hcreation))
      |>.append (Json.fieldsWritable_present (hint hgrace))
      |>.append (Json.fieldsWritable_present (htime hdeletion))
      |>.append (Json.fieldsWritable_present hlist)
      |>.append (Json.fieldsWritable_present (readsBack_texts generateName))
      |>.append (Json.fieldsWritable_present (hint hgeneration))
      |>.append (Json.fieldsWritable_present (htable labels))
      |>.append (Json.fieldsWritable_present hfields')
      |>.append (Json.fieldsWritable_present (readsBack_texts name))
      |>.append (Json.fieldsWritable_present (readsBack_texts ns))
      |>.append (Json.fieldsWritable_present howners)
      |>.append (Json.fieldsWritable_present (readsBack_texts version))
      |>.append (Json.fieldsWritable_present (readsBack_texts link))
      |>.append (Json.fieldsWritable_present (readsBack_texts uid)))
  · unfold ofJson? toJson
    refine Option.bind_eq_some_iff.mpr ⟨_, rfl, ?_⟩
    refine Json.bind_entry? (htable annotations) (by simp) ?_
    refine Json.bind_entry? (htime hcreation) (by simp) ?_
    refine Json.bind_entry? (hint hgrace) (by simp) ?_
    refine Json.bind_entry? (htime hdeletion) (by simp) ?_
    refine Json.bind_entry? hlist (by simp) ?_
    refine Json.bind_entry? (readsBack_texts generateName) (by simp) ?_
    refine Json.bind_entry? (hint hgeneration) (by simp) ?_
    refine Json.bind_entry? (htable labels) (by simp) ?_
    refine Json.bind_entry? hfields' (by simp) ?_
    refine Json.bind_entry? (readsBack_texts name) (by simp) ?_
    refine Json.bind_entry? (readsBack_texts ns) (by simp) ?_
    refine Json.bind_entry? howners (by simp) ?_
    refine Json.bind_entry? (readsBack_texts version) (by simp) ?_
    refine Json.bind_entry? (readsBack_texts link) (by simp) ?_
    refine Json.bind_entry? (readsBack_texts uid) (by simp) ?_
    simp only [Option.map_id_apply, List.map_id_fun]
    rfl
  · unfold toJson wholeSeconds
    rw [Json.present_map (htime hcreation), Json.present_map (htime hdeletion),
      Json.present_map hfields']

/-! ### Specification and status -/

/-- A specification with its time cut to the whole second. -/
def AutoscalerSpec.wholeSeconds (s : AutoscalerSpec) : AutoscalerSpec :=
  { s with lastEviction := s.lastEviction.wholeSeconds }

/-- What a value says that gives a specification. -/
structure AutoscalerSpec.Says (v : Json) (s : AutoscalerSpec) : Prop where
  targetName : s.targetName = ((v.fieldAt? 0 "targetName").bind Json.asText).getD ""
  targetKind : s.targetKind = ((v.fieldAt? 1 "targetKind").bind Json.asText).getD "deployment"
  lastEviction : s.lastEviction = ((v.fieldAt? 2 "lastEviction").bind Eviction.ofJson?).getD {}

theorem AutoscalerSpec.exists_of_ofJson? {v : Json} {s : AutoscalerSpec}
    (h : AutoscalerSpec.ofJson? v = some s) : ∃ name kind eviction,
      v.closed? ["targetName", "targetKind", "lastEviction"] = some [name, kind, eviction] ∧
      Json.defaulted "" Json.asText name = some s.targetName ∧
      Json.defaulted "deployment" Json.asText kind = some s.targetKind ∧
      Json.defaulted {} Eviction.ofJson? eviction = some s.lastEviction := by
  obtain ⟨fields, hfields, h⟩ := Option.bind_eq_some_iff.mp h
  split at h
  next name kind eviction =>
    simp only [Option.bind_eq_bind, Option.bind_eq_some_iff] at h
    obtain ⟨_, hname, _, hkind, _, heviction, h⟩ := h
    cases h
    exact ⟨name, kind, eviction, hfields, hname, hkind, heviction⟩
  · cases h

theorem AutoscalerSpec.says {v : Json} {s : AutoscalerSpec}
    (h : AutoscalerSpec.ofJson? v = some s) : s.Says v := by
  obtain ⟨name, kind, eviction, hclosed, hname, hkind, heviction⟩ := exists_of_ofJson? h
  have hfields := Json.getElem?_of_closed? hclosed
  obtain rfl : name = v.fieldAt? 0 "targetName" := Option.some.inj (hfields 0)
  obtain rfl : kind = v.fieldAt? 1 "targetKind" := Option.some.inj (hfields 1)
  obtain rfl : eviction = v.fieldAt? 2 "lastEviction" := Option.some.inj (hfields 2)
  exact ⟨Json.eq_of_defaulted hname, Json.eq_of_defaulted hkind, Json.eq_of_defaulted heviction⟩

theorem Eviction.given_default : Given Eviction.ofJson? {} :=
  ⟨.object [], .object nofun, rfl⟩

theorem AutoscalerSpec.readsBack {s : AutoscalerSpec} (h : Given AutoscalerSpec.ofJson? s) :
    ReadsBack AutoscalerSpec.ofJson? AutoscalerSpec.toJson AutoscalerSpec.wholeSeconds s := by
  obtain ⟨v, hv, h⟩ := h
  obtain ⟨name, kind, eviction, hclosed, -, -, heviction⟩ := exists_of_ofJson? h
  have hformed := Json.numbers_of_closed? hv hclosed
  have heviction' : ReadsBack Eviction.ofJson? Eviction.toJson Eviction.wholeSeconds
      s.lastEviction :=
    Eviction.readsBack
      (Json.given_of_defaulted Eviction.given_default (hformed eviction (by simp)) heviction)
  have hwritten : s.toJson.closed? ["targetName", "targetKind", "lastEviction"]
      = some [some (.text s.targetName), some (.text s.targetKind),
        some s.lastEviction.toJson] := rfl
  refine ⟨.object ?_, rfl, ?_, ?_⟩
  · simp only [List.forall_mem_cons]
    exact ⟨.text _, .text _, heviction'.writable, nofun⟩
  · unfold AutoscalerSpec.ofJson?
    rw [hwritten]
    simp only [Option.bind_eq_bind, Option.bind_some, Json.defaulted, Json.asText,
      heviction'.back]
    rfl
  · have hagain := heviction'.again
    unfold Eviction.toJson at hagain
    unfold toJson toJsonWith wholeSeconds
    dsimp only
    rw [hagain]

/-- What a value says that gives a condition. -/
structure AutoscalerCondition.Says (v : Json) (c : AutoscalerCondition) : Prop where
  type : (v.fieldAt? 0 "type").bind Json.asText = some c.type
  status : (v.fieldAt? 1 "status").bind Json.asText = some c.status
  lastTransitionTime :
    c.lastTransitionTime = (v.fieldAt? 2 "lastTransitionTime").bind Json.asText
  reason : c.reason = (v.fieldAt? 3 "reason").bind Json.asText
  message : c.message = (v.fieldAt? 4 "message").bind Json.asText

theorem AutoscalerCondition.says {v : Json} {c : AutoscalerCondition}
    (h : AutoscalerCondition.ofJson? v = some c) : c.Says v := by
  obtain ⟨fields, hclosed, h⟩ := Option.bind_eq_some_iff.mp h
  have hfields := Json.getElem?_of_closed? hclosed
  split at h
  next type status time reason message =>
    simp only [Option.bind_eq_bind, Option.bind_eq_some_iff] at h
    obtain ⟨_, htype, _, hstatus, _, htime, _, hreason, _, hmessage, h⟩ := h
    cases h
    obtain rfl : type = v.fieldAt? 0 "type" := Option.some.inj (hfields 0)
    obtain rfl : status = v.fieldAt? 1 "status" := Option.some.inj (hfields 1)
    obtain rfl : time = v.fieldAt? 2 "lastTransitionTime" := Option.some.inj (hfields 2)
    obtain rfl : reason = v.fieldAt? 3 "reason" := Option.some.inj (hfields 3)
    obtain rfl : message = v.fieldAt? 4 "message" := Option.some.inj (hfields 4)
    exact ⟨Json.bind_of_required htype, Json.bind_of_required hstatus,
      Json.eq_of_optional rfl htime, Json.eq_of_optional rfl hreason,
      Json.eq_of_optional rfl hmessage⟩
  · cases h

/-- Any condition is read back as it is. -/
theorem AutoscalerCondition.readsBack (c : AutoscalerCondition) :
    ReadsBack AutoscalerCondition.ofJson? AutoscalerCondition.toJson id c := by
  have hwritable : ∀ text : Option String, (Json.ofText? text).IsWritable := by
    rintro (_ | s)
    · exact .null
    · exact .text s
  have hoptional : ∀ text : Option String,
      Json.optional Json.asText (some (Json.ofText? text)) = some text := by
    rintro (_ | s)
    · rfl
    · rfl
  have hclosed : c.toJson.closed? ["type", "status", "lastTransitionTime", "reason", "message"]
      = some [some (.text c.type), some (.text c.status), some (.ofText? c.lastTransitionTime),
        some (.ofText? c.reason), some (.ofText? c.message)] := rfl
  refine ⟨.object ?_, rfl, ?_, rfl⟩
  · simp only [List.forall_mem_cons]
    exact ⟨.text _, .text _, hwritable _, hwritable _, hwritable _, nofun⟩
  · unfold AutoscalerCondition.ofJson?
    rw [hclosed]
    simp only [Option.bind_eq_bind, Option.bind_some, Json.required, Json.asText, hoptional]
    rfl

/-- What a value says that gives a status. -/
structure AutoscalerStatus.Says (v : Json) (s : AutoscalerStatus) : Prop where
  minReplicas : s.minReplicas = ((v.fieldAt? 0 "minReplicas").bind Json.asInt32).getD 0
  targetGeneration :
    s.targetGeneration = ((v.fieldAt? 1 "targetGeneration").bind Json.asInt64).getD 0
  conditions : s.conditions
    = ((v.fieldAt? 2 "conditions").bind (Json.listOf AutoscalerCondition.ofJson?)).getD []

theorem AutoscalerStatus.exists_of_ofJson? {v : Json} {s : AutoscalerStatus}
    (h : AutoscalerStatus.ofJson? v = some s) : ∃ replicas generation conditions,
      v.closed? ["minReplicas", "targetGeneration", "conditions"]
        = some [replicas, generation, conditions] ∧
      Json.defaulted 0 Json.asInt32 replicas = some s.minReplicas ∧
      Json.defaulted 0 Json.asInt64 generation = some s.targetGeneration ∧
      Json.defaulted [] (Json.listOf AutoscalerCondition.ofJson?) conditions
        = some s.conditions := by
  obtain ⟨fields, hfields, h⟩ := Option.bind_eq_some_iff.mp h
  split at h
  next replicas generation conditions =>
    simp only [Option.bind_eq_bind, Option.bind_eq_some_iff] at h
    obtain ⟨_, hreplicas, _, hgeneration, _, hconditions, h⟩ := h
    cases h
    exact ⟨replicas, generation, conditions, hfields, hreplicas, hgeneration, hconditions⟩
  · cases h

theorem AutoscalerStatus.says {v : Json} {s : AutoscalerStatus}
    (h : AutoscalerStatus.ofJson? v = some s) : s.Says v := by
  obtain ⟨replicas, generation, conditions, hclosed, hreplicas, hgeneration, hconditions⟩ :=
    exists_of_ofJson? h
  have hfields := Json.getElem?_of_closed? hclosed
  obtain rfl : replicas = v.fieldAt? 0 "minReplicas" := Option.some.inj (hfields 0)
  obtain rfl : generation = v.fieldAt? 1 "targetGeneration" := Option.some.inj (hfields 1)
  obtain rfl : conditions = v.fieldAt? 2 "conditions" := Option.some.inj (hfields 2)
  exact ⟨Json.eq_of_defaulted hreplicas, Json.eq_of_defaulted hgeneration,
    Json.eq_of_defaulted hconditions⟩

theorem given_zero {low high : Int} (h : Json.asIntIn low high (.int 0) = some 0) :
    Given (Json.asIntIn low high) 0 :=
  ⟨.int 0, .number fun _ => ⟨rfl, rfl⟩, h⟩

theorem AutoscalerStatus.readsBack {s : AutoscalerStatus}
    (h : Given AutoscalerStatus.ofJson? s) :
    ReadsBack AutoscalerStatus.ofJson? AutoscalerStatus.toJson id s := by
  obtain ⟨v, hv, h⟩ := h
  obtain ⟨replicas, generation, conditions, hclosed, hreplicas, hgeneration, -⟩ :=
    exists_of_ofJson? h
  have hformed := Json.numbers_of_closed? hv hclosed
  have hreplicas' : ReadsBack Json.asInt32 Json.int id s.minReplicas :=
    Json.readsBack_int
      (Json.given_of_defaulted (given_zero rfl) (hformed replicas (by simp)) hreplicas)
  have hgeneration' : ReadsBack Json.asInt64 Json.int id s.targetGeneration :=
    Json.readsBack_int
      (Json.given_of_defaulted (given_zero rfl) (hformed generation (by simp)) hgeneration)
  have hconditions : ReadsBack (Json.listOf AutoscalerCondition.ofJson?)
      (Json.ofList AutoscalerCondition.toJson) (List.map id) s.conditions :=
    Json.readsBack_listOf fun c _ => AutoscalerCondition.readsBack c
  have hwritten : s.toJson.closed? ["minReplicas", "targetGeneration", "conditions"]
      = some [some (.int s.minReplicas), some (.int s.targetGeneration),
        some (Json.ofList AutoscalerCondition.toJson s.conditions)] := rfl
  refine ⟨.object ?_, rfl, ?_, rfl⟩
  · simp only [List.forall_mem_cons]
    exact ⟨hreplicas'.writable, hgeneration'.writable, hconditions.writable, nofun⟩
  · unfold AutoscalerStatus.ofJson?
    rw [hwritten]
    simp only [Option.bind_eq_bind, Option.bind_some, Json.defaulted, hreplicas'.back,
      hgeneration'.back, hconditions.back, List.map_id_fun]
    rfl

/-! ### Autoscalers -/

/-- An autoscaler with all its times cut to whole seconds. -/
def Autoscaler.wholeSeconds (a : Autoscaler) : Autoscaler :=
  { a with metadata := a.metadata.wholeSeconds, spec := a.spec.wholeSeconds }

/-- What a value says that gives an autoscaler. -/
structure Autoscaler.Says (v : Json) (a : Autoscaler) : Prop where
  metadata : (v.fieldAt? 0 "metadata").bind ObjectMeta.ofJson? = some a.metadata
  spec : (v.fieldAt? 1 "spec").bind AutoscalerSpec.ofJson? = some a.spec
  status : a.status = (v.fieldAt? 2 "status").bind AutoscalerStatus.ofJson?

theorem Autoscaler.exists_of_ofJson? {v : Json} {a : Autoscaler}
    (h : Autoscaler.ofJson? v = some a) : ∃ metadata spec status,
      v.closed? ["metadata", "spec", "status"] = some [metadata, spec, status] ∧
      Json.required ObjectMeta.ofJson? metadata = some a.metadata ∧
      Json.required AutoscalerSpec.ofJson? spec = some a.spec ∧
      Json.optional AutoscalerStatus.ofJson? status = some a.status := by
  obtain ⟨fields, hfields, h⟩ := Option.bind_eq_some_iff.mp h
  split at h
  next metadata spec status =>
    split at h
    · simp only [Option.bind_eq_bind, Option.bind_eq_some_iff] at h
      obtain ⟨_, hmetadata, _, hspec, _, hstatus, h⟩ := h
      cases h
      exact ⟨metadata, spec, status, hfields, hmetadata, hspec, hstatus⟩
    · cases h
  · cases h

theorem Autoscaler.says {v : Json} {a : Autoscaler} (h : Autoscaler.ofJson? v = some a) :
    a.Says v := by
  obtain ⟨metadata, spec, status, hclosed, hmetadata, hspec, hstatus⟩ := exists_of_ofJson? h
  have hfields := Json.getElem?_of_closed? hclosed
  obtain rfl : metadata = v.fieldAt? 0 "metadata" := Option.some.inj (hfields 0)
  obtain rfl : spec = v.fieldAt? 1 "spec" := Option.some.inj (hfields 1)
  obtain rfl : status = v.fieldAt? 2 "status" := Option.some.inj (hfields 2)
  exact ⟨Json.bind_of_required hmetadata, Json.bind_of_required hspec,
    Json.eq_of_optional rfl hstatus⟩

theorem Autoscaler.closed?_toJson (a : Autoscaler) :
    a.toJson.closed? ["metadata", "spec", "status"]
      = some [some a.metadata.toJson, some a.spec.toJson,
        a.status.map AutoscalerStatus.toJson] := by
  obtain ⟨metadata, spec, status⟩ := a
  cases status with
  | none => rfl
  | some s => rfl

theorem Autoscaler.readsBack {a : Autoscaler} (h : Given Autoscaler.ofJson? a)
    (hsettled : a.metadata.IsSettled) :
    ReadsBack Autoscaler.ofJson? Autoscaler.toJson Autoscaler.wholeSeconds a := by
  obtain ⟨v, hv, h⟩ := h
  obtain ⟨metadata, spec, status, hclosed, hmetadata, hspec, hstatus⟩ := exists_of_ofJson? h
  have hformed := Json.numbers_of_closed? hv hclosed
  have hmetadata' := ObjectMeta.readsBack
    (Json.given_of_required (hformed metadata (by simp)) hmetadata) hsettled
  have hspec' := AutoscalerSpec.readsBack (Json.given_of_required (hformed spec (by simp)) hspec)
  have hstatus' : ∀ s ∈ a.status,
      ReadsBack AutoscalerStatus.ofJson? AutoscalerStatus.toJson id s := fun s hs =>
    AutoscalerStatus.readsBack (Json.given_of_optional (hformed status (by simp)) hstatus s hs)
  have hnames : Json.FieldsWritable [("apiVersion", .text apiVersion), ("kind", .text kind),
      ("metadata", a.metadata.toJson), ("spec", a.spec.toJson)] := by
    unfold Json.FieldsWritable
    simp only [List.forall_mem_cons]
    exact ⟨.text _, .text _, hmetadata'.writable, hspec'.writable, nofun⟩
  refine ⟨.object (hnames.append (Json.fieldsWritable_present hstatus')), rfl, ?_, ?_⟩
  · unfold ofJson?
    rw [closed?_toJson]
    simp only [Option.bind_eq_bind, Option.bind_some, Json.required, hmetadata'.back, hspec'.back,
      Json.optional_map hstatus', Option.map_id_apply]
    rfl
  · have hagain := hspec'.again
    unfold AutoscalerSpec.toJson at hagain
    unfold toJson toJsonWith wholeSeconds
    dsimp only
    rw [hmetadata'.again, hagain]

end CordonWatch
