import CordonWatch.Proofs.Object.ReadBack

/-!
# Texts that are read and written again

The controller reads an autoscaler from the answer of the server and writes all of it
again with another last eviction. What it has read of the other fields comes back as it
was but for fractions of seconds, with the default for what the text left out
(`decode_render_of_decode`). Only the numbers that the server keeps in the records of
field owners may change (`decode_render_of_decode_changed`).
-/

namespace CordonWatch

/-- Any text that gives an eviction, a specification, a condition, a status or an
autoscaler: what it gives is what the text says, with a default for what is missing. From
what is written of it, it is read back with its times cut to whole seconds, and of that the
same is written. Of an autoscaler that is so if the numbers in the records of field owners
are kept as they are. -/
theorem decode_render_of_decode (text : String) :
    (∀ e, Json.decode Eviction.ofJson? text = some e →
      (∃ v, Json.read text = some v ∧ e.Says v) ∧
      Json.decode Eviction.ofJson? e.toJson.render = some e.wholeSeconds ∧
      e.wholeSeconds.toJson = e.toJson) ∧
    (∀ s, Json.decode AutoscalerSpec.ofJson? text = some s →
      (∃ v, Json.read text = some v ∧ s.Says v) ∧
      Json.decode AutoscalerSpec.ofJson? s.toJson.render = some s.wholeSeconds ∧
      s.wholeSeconds.toJson = s.toJson) ∧
    (∀ c, Json.decode AutoscalerCondition.ofJson? text = some c →
      (∃ v, Json.read text = some v ∧ c.Says v) ∧
      Json.decode AutoscalerCondition.ofJson? c.toJson.render = some c) ∧
    (∀ s, Json.decode AutoscalerStatus.ofJson? text = some s →
      (∃ v, Json.read text = some v ∧ s.Says v) ∧
      Json.decode AutoscalerStatus.ofJson? s.toJson.render = some s) ∧
    (∀ a, Json.decode Autoscaler.ofJson? text = some a → a.metadata.IsSettled →
      (∃ v, Json.read text = some v ∧ a.Says v) ∧
      Json.decode Autoscaler.ofJson? a.toJson.render = some a.wholeSeconds ∧
      a.wholeSeconds.toJson = a.toJson) := by
  refine ⟨fun e h => ?_, fun s h => ?_, fun c h => ?_, fun s h => ?_, fun a h hsettled => ?_⟩
  · obtain ⟨v, hv, hread⟩ := Option.bind_eq_some_iff.mp h
    have hback := Eviction.readsBack (Json.given_of_decode h)
    exact ⟨⟨v, hv, Eviction.says hread⟩, hback.decode_render, hback.again⟩
  · obtain ⟨v, hv, hread⟩ := Option.bind_eq_some_iff.mp h
    have hback := AutoscalerSpec.readsBack (Json.given_of_decode h)
    exact ⟨⟨v, hv, AutoscalerSpec.says hread⟩, hback.decode_render, hback.again⟩
  · obtain ⟨v, hv, hread⟩ := Option.bind_eq_some_iff.mp h
    exact ⟨⟨v, hv, AutoscalerCondition.says hread⟩,
      (AutoscalerCondition.readsBack c).decode_render⟩
  · obtain ⟨v, hv, hread⟩ := Option.bind_eq_some_iff.mp h
    exact ⟨⟨v, hv, AutoscalerStatus.says hread⟩,
      (AutoscalerStatus.readsBack (Json.given_of_decode h)).decode_render⟩
  · obtain ⟨v, hv, hread⟩ := Option.bind_eq_some_iff.mp h
    have hback := Autoscaler.readsBack (Json.given_of_decode h) hsettled
    exact ⟨⟨v, hv, Autoscaler.says hread⟩, hback.decode_render, hback.again⟩

/-- A text that gives an eviction, a specification, a condition and a status, with some of
the fields of each. -/
def partsText : String :=
  "\x7b\"type\":\"\",\"status\":\"True\",\"lastTransitionTime\":\"today\",\"reason\":null,"
    ++ "\"minReplicas\":0,\"evictionTime\":\"2024-05-06 9:08:09.5 +02:00\",\"targetName\":\"\"\x7d"

/-- A text that gives an autoscaler with a record of field owners. -/
def autoscalerText : String :=
  "\x7b\"spec\":[\"web\"],\"metadata\":\x7b\"name\":\"web\",\"managedFields\":[\x7b\"fieldsV1\":"
    ++ "\x7b\"f:spec\":[1]\x7d,\"time\":\"2024-05-06T07:08:09.5Z\"\x7d]\x7d\x7d"

theorem decode_render_of_decode_texts :
    ∃ (e : Eviction) (s : AutoscalerSpec) (c : AutoscalerCondition) (t : AutoscalerStatus)
      (a : Autoscaler),
      (Json.decode Eviction.ofJson? partsText = some e ∧
        Json.decode Eviction.ofJson? e.toJson.render = some e.wholeSeconds) ∧
      (Json.decode AutoscalerSpec.ofJson? partsText = some s ∧
        Json.decode AutoscalerSpec.ofJson? s.toJson.render = some s.wholeSeconds) ∧
      (Json.decode AutoscalerCondition.ofJson? partsText = some c ∧
        Json.decode AutoscalerCondition.ofJson? c.toJson.render = some c) ∧
      (Json.decode AutoscalerStatus.ofJson? partsText = some t ∧
        Json.decode AutoscalerStatus.ofJson? t.toJson.render = some t) ∧
      (Json.decode Autoscaler.ofJson? autoscalerText = some a ∧ a.metadata.IsSettled ∧
        Json.decode Autoscaler.ofJson? a.toJson.render = some a.wholeSeconds) := by
  have heviction : Json.decode Eviction.ofJson? partsText
      = some ⟨"", some ⟨1714979289, 500000000⟩⟩ := by decide +kernel
  have hspec : Json.decode AutoscalerSpec.ofJson? partsText = some ⟨"", "deployment", {}⟩ := by
    decide +kernel
  have hcondition : Json.decode AutoscalerCondition.ofJson? partsText
      = some ⟨"", "True", some "today", none, none⟩ := by decide +kernel
  have hstatus : Json.decode AutoscalerStatus.ofJson? partsText = some ⟨0, 0, []⟩ := by
    decide +kernel
  have hgiven : (Json.decode Autoscaler.ofJson? autoscalerText).isSome = true := by decide +kernel
  obtain ⟨a, hautoscaler⟩ := Option.isSome_iff_exists.mp hgiven
  have hsettled : ∀ a ∈ Json.decode Autoscaler.ofJson? autoscalerText, a.metadata.IsSettled := by
    decide +kernel
  obtain ⟨hevictions, hspecs, hconditions, hstatuses, -⟩ := decode_render_of_decode partsText
  have hautoscalers := (decode_render_of_decode autoscalerText).2.2.2.2
  exact ⟨_, _, _, _, a, ⟨heviction, (hevictions _ heviction).2.1⟩, ⟨hspec, (hspecs _ hspec).2.1⟩,
    ⟨hcondition, (hconditions _ hcondition).2⟩, ⟨hstatus, (hstatuses _ hstatus).2⟩,
    hautoscaler, hsettled a hautoscaler,
    (hautoscalers a hautoscaler (hsettled a hautoscaler)).2.1⟩

/-- An autoscaler whose record of field owners has a number that is not kept as it is. -/
def unsettledText : String :=
  "\x7b\"metadata\":\x7b\"managedFields\":[\x7b\"fieldsV1\":\x7b\"f\":123e-50\x7d\x7d]\x7d,"
    ++ "\"spec\":\x7b\x7d\x7d"

/-- What is written of the autoscaler of `unsettledText`. -/
def unsettledWritten : String :=
  "\x7b\"apiVersion\":\"eviction-autoscaler.azure.com/v1\",\"kind\":\"EvictionAutoScaler\","
    ++ "\"metadata\":\x7b\"managedFields\":["
    ++ "\x7b\"fieldsV1\":\x7b\"f\":1.2299999999999999e-48\x7d\x7d]\x7d,"
    ++ "\"spec\":\x7b\"targetName\":\"\",\"targetKind\":\"deployment\","
    ++ "\"lastEviction\":\x7b\"podName\":\"\"\x7d\x7d\x7d"

/-- An autoscaler that was made in the middle of a second. -/
def createdText : String :=
  "\x7b\"metadata\":\x7b\"creationTimestamp\":\"2024-05-06T07:08:09.5Z\"\x7d,\"spec\":\x7b\x7d\x7d"

/-- Of what is read from what was written, something else may be written if a number is
not kept as it is. Nor is the time of the last eviction the only one that is cut. -/
theorem decode_render_of_decode_changed :
    (∃ a b, Json.decode Autoscaler.ofJson? unsettledText = some a ∧
      a.toJson.render = unsettledWritten ∧
      Json.decode Autoscaler.ofJson? unsettledWritten = some b ∧ b.toJson ≠ a.toJson) ∧
    (∃ a, Json.decode Autoscaler.ofJson? createdText = some a ∧
      Json.decode Autoscaler.ofJson? a.toJson.render
        ≠ some { a with spec := a.spec.wholeSeconds }) := by
  constructor
  · have hwritten : (Json.decode Autoscaler.ofJson? unsettledText).map (·.toJson.render)
        = some unsettledWritten := by decide +kernel
    have hagain : (Json.decode Autoscaler.ofJson? unsettledWritten).map
        (fun b => decide (b.toJson.render = unsettledWritten)) = some false := by
      decide +kernel
    obtain ⟨a, ha, hrender⟩ := Option.map_eq_some_iff.mp hwritten
    obtain ⟨b, hb, hother⟩ := Option.map_eq_some_iff.mp hagain
    refine ⟨a, b, ha, hrender, hb, fun hsame => of_decide_eq_false hother ?_⟩
    rw [hsame, hrender]
  · have hcut : ((Json.decode Autoscaler.ofJson? createdText).bind fun a =>
        (Json.decode Autoscaler.ofJson? a.toJson.render).map fun b =>
          decide (b.metadata.creationTimestamp = a.metadata.creationTimestamp)) = some false := by
      decide +kernel
    obtain ⟨a, ha, hb⟩ := Option.bind_eq_some_iff.mp hcut
    refine ⟨a, ha, fun hsame => ?_⟩
    simp [hsame] at hb

end CordonWatch
