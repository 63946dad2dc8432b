import IncidentPlatform.Api.Alerts
import IncidentPlatform.Domain.TextLaws
import Mathlib.Logic.Equiv.Basic

/-!
# What a dedupe key identifies

The key is the hash of four fields with colons between them. A source has no colon. The other
fields may have some, and then the same text can be cut into other fields: `Recut` says how. Apart
from that, alerts with one key are the same alert.

The second part feeds a normalized envelope back through `normalize`. Everything but the severity
comes out as it went in. Of the canonical severities only `sev3` does, which is the default.
-/

namespace IncidentPlatform

open Interaction Encoding

/-- A field as it goes into the key. -/
def folded (t : Text) (field : String) : String := t.lower (t.strip field)

/-- The envelope of an alert, as `normalize` fills it. -/
structure Normalized (cfg : Settings) (payload : IngestPayload) (e : IncidentEnvelope) : Prop where
  source : e.source = canonicalSource cfg.text payload.source
  severity : e.severity = severityOf (cfg.text.lower payload.severity)
  service : e.service = folded cfg.text payload.service
  resource : e.resource = folded cfg.text payload.resource
  symptom : e.symptom = cfg.text.strip payload.symptom
  dedupeKey : e.dedupeKey = dedupeKeyOf cfg payload

theorem normalize_normalized (cfg : Settings) (payload : IngestPayload) :
    (normalize cfg payload).Yields fun r ↦ Normalized cfg payload r.metadata :=
  fun _ _ _ _ ↦ ⟨rfl, rfl, rfl, rfl, rfl, rfl⟩

theorem normalize_total (cfg : Settings) (payload : IngestPayload) :
    (normalize cfg payload).Total := fun _ _ _ _ ↦ trivial

theorem canonicalSource_mem (t : Text) (raw : String) : canonicalSource t raw ∈ knownSources := by
  have hwebhook : "webhook" ∈ knownSources := by decide
  unfold canonicalSource
  extract_lets source
  split_ifs with h
  · exact h
  · exact hwebhook

/-! ## The key -/

/-- The text that is hashed. -/
def keyText (t : Text) (payload : IngestPayload) : String :=
  canonicalSource t payload.source ++ ":" ++ folded t payload.service ++ ":" ++
    folded t payload.resource ++ ":" ++ folded t (t.strip payload.symptom)

theorem dedupeKeyOf_eq_sha256 (cfg : Settings) (payload : IngestPayload) :
    dedupeKeyOf cfg payload = cfg.sha256 (keyText cfg.text payload) := rfl

theorem folded_strip {t : Text} (ht : t.Standard) (field : String) :
    folded t (t.strip field) = folded t field := by
  rw [folded, ht.strip_strip, folded]

theorem keyText_eq {t : Text} (ht : t.Standard) (payload : IngestPayload) :
    keyText t payload = join ':' (canonicalSource t payload.source)
      (join ':' (folded t payload.service)
        (join ':' (folded t payload.resource) (folded t payload.symptom))) := by
  rw [← join_assoc, ← join_assoc, keyText, folded_strip ht]
  rfl

/-- The fields of `payload'` are those of `payload`, cut at a later colon. -/
def Recut (t : Text) (payload payload' : IngestPayload) : Prop :=
  Moved ':' (folded t payload.service)
      (join ':' (folded t payload.resource) (folded t payload.symptom))
      (folded t payload'.service)
      (join ':' (folded t payload'.resource) (folded t payload'.symptom)) ∨
    folded t payload.service = folded t payload'.service ∧
      Moved ':' (folded t payload.resource) (folded t payload.symptom)
        (folded t payload'.resource) (folded t payload'.symptom)

/-- The two envelopes have one dedupe key exactly if they are of one alert. -/
def KeyIdentifies (t : Text) (e e' : IncidentEnvelope) : Prop :=
  e.dedupeKey = e'.dedupeKey ↔ e.source = e'.source ∧ e.service = e'.service ∧
    e.resource = e'.resource ∧ t.lower e.symptom = t.lower e'.symptom

section

variable {payload payload' : IngestPayload}

theorem keyText_eq_iff {t : Text} (ht : t.Standard) :
    keyText t payload = keyText t payload' ↔
      canonicalSource t payload.source = canonicalSource t payload'.source ∧
      (folded t payload.service = folded t payload'.service ∧
        folded t payload.resource = folded t payload'.resource ∧
        folded t payload.symptom = folded t payload'.symptom ∨
      Recut t payload payload' ∨ Recut t payload' payload) := by
  have hcolon : ∀ source ∈ knownSources, ':' ∉ source.toList := by decide
  rw [keyText_eq ht, keyText_eq ht, join_eq_iff_of_not_mem (hcolon _ (canonicalSource_mem _ _))
    (hcolon _ (canonicalSource_mem _ _)), join_eq_iff, join_eq_iff, Recut, Recut,
    eq_comm (a := folded t payload'.service)]
  tauto

/-- Alerts that are cut at different colons are different. -/
theorem Recut.ne {t : Text} (h : Recut t payload payload') :
    folded t payload.service ≠ folded t payload'.service ∨
      folded t payload.resource ≠ folded t payload'.resource :=
  h.imp Moved.ne fun hresource ↦ hresource.2.ne

/-- **The dedupe key identifies the alert if and only if the fields are not those of the other
alert, cut at another colon.** -/
theorem keyIdentifies_iff (cfg : Settings) (ht : cfg.text.Standard)
    (hsha : Function.Injective cfg.sha256) (payload payload' : IngestPayload) :
    (normalize cfg payload).Yields fun r ↦ (normalize cfg payload').Yields fun r' ↦
      (KeyIdentifies cfg.text r.metadata r'.metadata ↔
        ¬ (canonicalSource cfg.text payload.source = canonicalSource cfg.text payload'.source ∧
          (Recut cfg.text payload payload' ∨ Recut cfg.text payload' payload))) := by
  refine Prog.Yields.mono (fun r hr ↦ Prog.Yields.mono (fun r' hr' ↦ ?_)
    (normalize_normalized cfg payload')) (normalize_normalized cfg payload)
  have hne : Recut cfg.text payload payload' ∨ Recut cfg.text payload' payload →
      ¬ (folded cfg.text payload.service = folded cfg.text payload'.service ∧
        folded cfg.text payload.resource = folded cfg.text payload'.resource) := by
    rintro (h | h) ⟨hservice, hresource⟩
    · exact h.ne.elim (fun hne ↦ hne hservice) fun hne ↦ hne hresource
    · exact h.ne.elim (fun hne ↦ hne hservice.symm) fun hne ↦ hne hresource.symm
  rw [KeyIdentifies, hr.dedupeKey, hr'.dedupeKey, dedupeKeyOf_eq_sha256, dedupeKeyOf_eq_sha256,
    hsha.eq_iff, keyText_eq_iff ht, hr.source, hr'.source, hr.service, hr'.service, hr.resource,
    hr'.resource, hr.symptom, hr'.symptom]
  change (_ ∧ (_ ∨ _) ↔ _ ∧ _ ∧ _ ∧ folded cfg.text payload.symptom =
    folded cfg.text payload'.symptom) ↔ _
  tauto

end

/-- A resource name with a colon. -/
def euDatabase : IngestPayload where
  service := "checkout"
  resource := "eu:db"
  symptom := "down"

/-- The alert of another service that is joined to the same text. -/
def euCheckout : IngestPayload where
  service := "checkout:eu"
  resource := "db"
  symptom := "down"

/-- SHA-256 at the text of the two alerts, and without collisions elsewhere. -/
def Settings.hashed : Settings :=
  { Settings.demo with
    sha256 := Equiv.swap "webhook:checkout:eu:db:down"
      "779324bc5159f7de527c296f07e9ba90ade92ad3b05b3bb63b55fec09b0cffc0" }

theorem keyIdentifies_iff_hashed :
    (normalize Settings.hashed euDatabase).Yields fun r ↦
      (normalize Settings.hashed euCheckout).Yields fun r' ↦
        (KeyIdentifies Text.ascii r.metadata r'.metadata ↔
          ¬ (canonicalSource Text.ascii euDatabase.source =
              canonicalSource Text.ascii euCheckout.source ∧
            (Recut Text.ascii euDatabase euCheckout ∨ Recut Text.ascii euCheckout euDatabase))) :=
  keyIdentifies_iff Settings.hashed Text.ascii_standard (Equiv.injective _) euDatabase euCheckout

/-- Two different alerts have one dedupe key, though the hash has no collisions. -/
theorem alerts_share_key : Function.Injective Settings.hashed.sha256 ∧
    (normalize Settings.hashed euDatabase).Yields fun r ↦
      (normalize Settings.hashed euCheckout).Yields fun r' ↦
        r.metadata.dedupeKey = r'.metadata.dedupeKey ∧
          ¬ KeyIdentifies Text.ascii r.metadata r'.metadata := by
  refine ⟨Equiv.injective _, ?_⟩
  refine Prog.Yields.mono (fun r hr ↦ Prog.Yields.mono (fun r' hr' ↦ ?_)
    (normalize_normalized _ euCheckout)) (normalize_normalized _ euDatabase)
  have hmoved : Recut Text.ascii euDatabase euCheckout :=
    Or.inl ⟨"eu", by decide +kernel, by decide +kernel⟩
  have htext : keyText Text.ascii euDatabase = keyText Text.ascii euCheckout :=
    (keyText_eq_iff Text.ascii_standard).mpr ⟨rfl, Or.inr (Or.inl hmoved)⟩
  have hkey : r.metadata.dedupeKey = r'.metadata.dedupeKey := by
    rw [hr.dedupeKey, hr'.dedupeKey, dedupeKeyOf_eq_sha256, dedupeKeyOf_eq_sha256]
    exact congrArg Settings.hashed.sha256 htext
  have hservice : folded Text.ascii euDatabase.service ≠ folded Text.ascii euCheckout.service := by
    decide
  exact ⟨hkey, fun h ↦ hservice (hr.service.symm.trans ((h.mp hkey).2.1.trans hr'.service))⟩

/-! ## Normalizing again -/

/-- The fields of an envelope as a payload. -/
def IncidentEnvelope.payload (e : IncidentEnvelope) : IngestPayload where
  source := e.source
  severity := e.severity
  service := e.service
  resource := e.resource
  symptom := e.symptom

/-- Two envelopes that are of one alert and equally severe. -/
structure SameAlert (e e' : IncidentEnvelope) : Prop where
  source : e'.source = e.source
  severity : e'.severity = e.severity
  service : e'.service = e.service
  resource : e'.resource = e.resource
  symptom : e'.symptom = e.symptom
  dedupeKey : e'.dedupeKey = e.dedupeKey

section

variable {t : Text}

theorem folded_folded (ht : t.Standard) (field : String) :
    folded t (folded t field) = folded t field := by
  rw [folded, folded, ht.strip_lower, ht.lower_lower]

theorem canonicalSource_of_mem (ht : t.Standard) {source : String} (h : source ∈ knownSources) :
    canonicalSource t source = source := by
  have hascii : ∀ s ∈ knownSources, (s.toList.all fun c ↦ decide (c.toNat < 128)) = true ∧
      s.isEmpty = false ∧ Text.ascii.strip s = s ∧ Text.ascii.lower s = s := by decide
  obtain ⟨hall, hempty, hstrip, hlower⟩ := hascii source h
  have hchars := ascii_of_all hall
  have hfolded : t.lower (t.strip source) = source := by
    rw [ht.strip_ascii source hchars, hstrip, ht.lower_ascii source hchars, hlower]
  unfold canonicalSource
  simp only [hempty, Bool.false_eq_true, if_false, hfolded, if_pos h]

theorem severityOf_eq_default {raw : String} (h : raw ∉ ["critical", "high", "info"]) :
    severityOf raw = "sev3" := by
  simp only [List.mem_cons, List.not_mem_nil, or_false, not_or] at h
  unfold severityOf
  split
  · exact absurd rfl h.1
  · exact absurd rfl h.2.1
  · rfl
  · exact absurd rfl h.2.2
  · rfl

/-- No canonical severity is a severity of an alert, so all of them count as unknown. -/
theorem severityOf_lower_severityOf (ht : t.Standard) (raw : String) :
    severityOf (t.lower (severityOf raw)) = "sev3" := by
  have hnot : ∀ sev ∈ ["sev1", "sev2", "sev3", "sev4"],
      (sev.toList.all fun c ↦ decide (c.toNat < 128)) = true ∧
        severityOf (Text.ascii.lower sev) = "sev3" := by decide
  have hmem : severityOf raw ∈ ["sev1", "sev2", "sev3", "sev4"] := by
    unfold severityOf
    split <;> decide
  obtain ⟨hall, hsev⟩ := hnot _ hmem
  rw [ht.lower_ascii _ (ascii_of_all hall), hsev]

theorem severityOf_iff (ht : t.Standard) (raw : String) :
    severityOf (t.lower (severityOf raw)) = severityOf raw ↔
      raw ∉ ["critical", "high", "info"] := by
  rw [severityOf_lower_severityOf ht]
  constructor
  · intro h hmem
    have hother : ∀ r ∈ ["critical", "high", "info"], severityOf r ≠ "sev3" := by decide
    exact hother raw hmem h.symm
  · exact fun h ↦ (severityOf_eq_default h).symm

end

/-- **Normalizing a normalized alert changes nothing if and only if it was not sent as critical,
high or info.** -/
theorem sameAlert_iff (cfg : Settings) (ht : cfg.text.Standard) (payload : IngestPayload) :
    (normalize cfg payload).Yields fun r ↦ (normalize cfg r.metadata.payload).Yields fun r' ↦
      (SameAlert r.metadata r'.metadata ↔
        cfg.text.lower payload.severity ∉ ["critical", "high", "info"]) := by
  refine Prog.Yields.mono (fun r hr ↦ Prog.Yields.mono (fun r' hr' ↦ ?_)
    (normalize_normalized cfg r.metadata.payload)) (normalize_normalized cfg payload)
  have hsource : canonicalSource cfg.text r.metadata.source =
      canonicalSource cfg.text payload.source := by
    rw [hr.source, canonicalSource_of_mem ht (canonicalSource_mem _ _)]
  have hservice : folded cfg.text r.metadata.service = folded cfg.text payload.service := by
    rw [hr.service, folded_folded ht]
  have hresource : folded cfg.text r.metadata.resource = folded cfg.text payload.resource := by
    rw [hr.resource, folded_folded ht]
  have hsymptom : folded cfg.text r.metadata.symptom = folded cfg.text payload.symptom := by
    rw [hr.symptom, folded_strip ht]
  rw [← severityOf_iff ht, ← hr.severity]
  constructor
  · exact fun h ↦ hr'.severity.symm.trans h.severity
  · intro h
    refine ⟨hr'.source.trans (hsource.trans hr.source.symm), hr'.severity.trans h,
      hr'.service.trans (hservice.trans hr.service.symm),
      hr'.resource.trans (hresource.trans hr.resource.symm), ?_, ?_⟩
    · rw [hr'.symptom]
      change cfg.text.strip r.metadata.symptom = _
      rw [hr.symptom, ht.strip_strip]
    · have htext : keyText cfg.text r.metadata.payload = keyText cfg.text payload := by
        rw [keyText_eq ht, keyText_eq ht, ← hsource, ← hservice, ← hresource, ← hsymptom]
        rfl
      rw [hr'.dedupeKey, hr.dedupeKey, dedupeKeyOf_eq_sha256, htext, dedupeKeyOf_eq_sha256]

theorem sameAlert_iff_demo :
    (normalize Settings.demo euDatabase).Yields fun r ↦
      (normalize Settings.demo r.metadata.payload).Yields fun r' ↦
        (SameAlert r.metadata r'.metadata ↔
          Text.ascii.lower euDatabase.severity ∉ ["critical", "high", "info"]) :=
  sameAlert_iff Settings.demo Text.ascii_standard euDatabase

/-- A critical alert is of no particular severity the second time. -/
theorem critical_becomes_sev3 :
    (normalize Settings.demo { euDatabase with severity := "critical" }).Yields fun r ↦
      (normalize Settings.demo r.metadata.payload).Yields fun r' ↦
        r.metadata.severity = "sev1" ∧ r'.metadata.severity = "sev3" ∧
          ¬ SameAlert r.metadata r'.metadata := by
  refine Prog.Yields.mono (fun r hr ↦ Prog.Yields.mono (fun r' hr' ↦ ?_)
    (normalize_normalized _ r.metadata.payload)) (normalize_normalized _ _)
  have hfirst : r.metadata.severity = "sev1" := hr.severity.trans (by decide)
  have hsecond : r'.metadata.severity = "sev3" := by
    rw [hr'.severity]
    change severityOf (Text.ascii.lower r.metadata.severity) = _
    rw [hfirst]
    decide
  refine ⟨hfirst, hsecond, fun h ↦ ?_⟩
  exact absurd (hsecond.symm.trans (h.severity.trans hfirst)) (by decide)

end IncidentPlatform
