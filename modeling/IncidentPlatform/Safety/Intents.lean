import IncidentPlatform.Domain.TextLaws
import IncidentPlatform.Persistence.Idempotency
import IncidentPlatform.Safety.Collectors

/-!
# Normalised intents

`normalize_evidence_intents` keeps the keys of its strings at their first occurrence, in one list
for the four classes of synonyms and for the names it does not know. So what it returns repeats
nothing and is normalised already (`normalizeEvidenceIntents_normalized`). It is never empty, and
the `["metrics", "logs"]` that the source returns for strings without keys is never returned.
-/

namespace IncidentPlatform

/-! ## First occurrences -/

section FirstTimes

variable {α β : Type*} [DecidableEq α]

/-- Inserting what is missing keeps first occurrences. -/
theorem foldl_insert_eq (f : β → α) (l : List β) (out : List α) :
    l.foldl (fun out x ↦ if f x ∈ out then out else out ++ [f x]) out =
      out ++ firstTimes out (l.map f) := by
  induction l generalizing out with
  | nil => exact (List.append_nil out).symm
  | cons x l ih =>
    rw [List.foldl_cons, ih, List.map_cons, firstTimes]
    split_ifs
    · rfl
    · rw [List.append_assoc]
      rfl

/-- What repeats nothing is kept. -/
theorem firstTimes_of_nodup {l : List α} (h : l.Nodup) {seen : List α} (hseen : ∀ a ∈ l, a ∉ seen) :
    firstTimes seen l = l := by
  induction l generalizing seen with
  | nil => rfl
  | cons a l ih =>
    obtain ⟨ha, hl⟩ := List.nodup_cons.mp h
    rw [firstTimes, if_neg (hseen a List.mem_cons_self), ih hl]
    intro b hb hmem
    rcases List.mem_append.mp hmem with hmem | hmem
    · exact hseen b (List.mem_cons_of_mem a hb) hmem
    · exact ha (List.mem_singleton.mp hmem ▸ hb)

/-- First occurrences keep their order. -/
theorem pairwise_firstTimes (l seen : List α) :
    (firstTimes seen l).Pairwise fun a b ↦ l.idxOf a < l.idxOf b := by
  induction l generalizing seen with
  | nil => exact .nil
  | cons c l ih =>
    -- What comes after `c` differs from it, and is found one place later.
    have hlater {seen' : List α} (hc : c ∈ seen') : (firstTimes seen' l).Pairwise
        fun a b ↦ (c :: l).idxOf a < (c :: l).idxOf b := by
      refine (List.Pairwise.and_mem.mp (ih seen')).imp fun {a b} h ↦ ?_
      obtain ⟨ha, hb, hlt⟩ := h
      have hne (d : α) (hd : d ∈ firstTimes seen' l) : c ≠ d := fun h ↦
        ((mem_firstTimes l seen').mp hd).2 (h ▸ hc)
      rw [List.idxOf_cons_ne _ (hne a ha), List.idxOf_cons_ne _ (hne b hb)]
      omega
    rw [firstTimes]
    split_ifs with hc
    · exact hlater hc
    · have hmem : c ∈ seen ++ [c] := List.mem_append_right _ (List.mem_singleton_self c)
      refine List.pairwise_cons.mpr ⟨fun b hb ↦ ?_, hlater hmem⟩
      have hne : c ≠ b := fun h ↦ ((mem_firstTimes l _).mp hb).2 (h ▸ hmem)
      rw [List.idxOf_cons_self, List.idxOf_cons_ne _ hne]
      omega

end FirstTimes

/-! ## The key of a string -/

/-- `item.strip().lower()`. -/
def Text.stripLower (t : Text) (s : String) : String := t.lower (t.strip s)

/-- The four collector keys, each with the names that stand for it. -/
def synonyms : List (String × List String) :=
  [("metrics", ["metric", "metrics", "timeseries"]), ("logs", ["log", "logs", "logging"]),
    ("recent_changes", ["recent_changes", "deployments", "deployment", "change", "changes"]),
    ("topology", ["topology", "topo", "dependencies"])]

/-- The collector key of a known name, or the name itself. -/
def IsKeyOf (t : Text) (item key : String) : Prop :=
  (∃ names, (key, names) ∈ synonyms ∧ t.stripLower item ∈ names) ∨
    (∀ e ∈ synonyms, t.stripLower item ∉ e.2) ∧ key = t.stripLower item

/-- The key of a string, as it is computed. -/
def intentKey (t : Text) (item : String) : String := canonicalIntent (t.stripLower item)

theorem canonicalIntent_cases (name : String) :
    (∃ names, (canonicalIntent name, names) ∈ synonyms ∧ name ∈ names) ∨
      (∀ e ∈ synonyms, name ∉ e.2) ∧ canonicalIntent name = name := by
  rw [canonicalIntent]
  split_ifs with hmetrics hlogs hchanges htopology
  · exact Or.inl ⟨_, by simp [synonyms], hmetrics⟩
  · exact Or.inl ⟨_, by simp [synonyms], hlogs⟩
  · exact Or.inl ⟨_, by simp [synonyms], hchanges⟩
  · exact Or.inl ⟨_, by simp [synonyms], htopology⟩
  · refine Or.inr ⟨fun e he ↦ ?_, rfl⟩
    simp only [synonyms, List.mem_cons, List.not_mem_nil, or_false] at he
    rcases he with rfl | rfl | rfl | rfl <;> assumption

/-- No name stands for two collectors. -/
theorem synonyms_disjoint : ∀ e ∈ synonyms, ∀ e' ∈ synonyms, ∀ name ∈ e.2, name ∈ e'.2 →
    e.1 = e'.1 := by decide

theorem isKeyOf_iff (t : Text) (item key : String) :
    IsKeyOf t item key ↔ intentKey t item = key := by
  rw [IsKeyOf, intentKey]
  rcases canonicalIntent_cases (t.stripLower item) with ⟨names, hentry, hname⟩ | ⟨hunknown, hkey⟩
  · constructor
    · rintro (⟨names', hentry', hname'⟩ | ⟨hunknown, -⟩)
      · exact synonyms_disjoint _ hentry _ hentry' _ hname hname'
      · exact absurd hname (hunknown _ hentry)
    · rintro rfl
      exact Or.inl ⟨names, hentry, hname⟩
  · constructor
    · rintro (⟨names, hentry, hname⟩ | ⟨-, rfl⟩)
      · exact absurd hname (hunknown _ hentry)
      · exact hkey
    · rintro rfl
      exact Or.inr ⟨hunknown, hkey⟩

/-! ## What the normalisation returns -/

/-- Stripping and lower-casing twice is the same as once, and leaves the collector keys alone. -/
structure Text.Settles (t : Text) : Prop where
  twice : ∀ s, t.stripLower (t.stripLower s) = t.stripLower s
  collectorKeys : ∀ key ∈ collectorKeys, t.stripLower key = key

theorem Text.Standard.settles {t : Text} (h : t.Standard) : t.Settles where
  twice s := by
    rw [stripLower, stripLower, h.strip_lower, h.lower_lower]
  collectorKeys key hkey := by
    have hascii : ∀ key ∈ IncidentPlatform.collectorKeys,
        (key.toList.all fun c ↦ decide (c.toNat < 128)) = true ∧
          Text.ascii.lower (Text.ascii.strip key) = key ∧ Text.ascii.strip key = key := by
      decide
    obtain ⟨hall, hlower, hstrip⟩ := hascii key hkey
    have hchars := ascii_of_all hall
    rw [stripLower, h.strip_ascii key hchars, hstrip, h.lower_ascii key hchars]
    rwa [hstrip] at hlower

/-- What `normalize_evidence_intents` should return: some keys, each once, that are normalised
already, and for a list of strings the keys of the strings, in order of first occurrence. -/
structure NormalIntents (t : Text) (raw out : List String) : Prop where
  nonempty : out ≠ []
  nodup : out.Nodup
  again : normalizeEvidenceIntents t out = out
  keys : raw ≠ [] → ∀ key, key ∈ out ↔ ∃ item ∈ raw, IsKeyOf t item key
  order : raw ≠ [] → out.Pairwise fun a b ↦
    (raw.map (intentKey t)).idxOf a < (raw.map (intentKey t)).idxOf b

section

variable {t : Text} {raw : List String}

theorem normalizeEvidenceIntents_of_ne_nil (t : Text) (h : raw ≠ []) :
    normalizeEvidenceIntents t raw = firstTimes [] (raw.map (intentKey t)) := by
  rw [normalizeEvidenceIntents, if_neg (by rwa [List.isEmpty_iff])]
  exact foldl_insert_eq (intentKey t) raw []

theorem mem_normalizeEvidenceIntents (h : raw ≠ []) {key : String} :
    key ∈ normalizeEvidenceIntents t raw ↔ ∃ item ∈ raw, intentKey t item = key := by
  rw [normalizeEvidenceIntents_of_ne_nil t h, mem_firstTimes, List.mem_map]
  exact and_iff_left List.not_mem_nil

/-- The keys of strings are their own keys. -/
theorem intentKey_intentKey (ht : t.Settles) (item : String) :
    intentKey t (intentKey t item) = intentKey t item := by
  have hcanonical : ∀ e ∈ synonyms, e.1 ∈ collectorKeys ∧ canonicalIntent e.1 = e.1 := by decide
  have hkey : intentKey t item = canonicalIntent (t.stripLower item) := rfl
  rcases canonicalIntent_cases (t.stripLower item) with ⟨names, hentry, -⟩ | ⟨-, hsame⟩
  · obtain ⟨hmem, hfixed⟩ := hcanonical _ hentry
    rw [hkey, intentKey, ht.collectorKeys _ hmem, hfixed]
  · rw [hkey, intentKey, hsame, ht.twice, hsame]

/-- A list of keys of their own that repeats nothing is returned as it is. -/
theorem normalizeEvidenceIntents_of_fixed {out : List String} (hout : out ≠ [])
    (hnodup : out.Nodup) (hfixed : ∀ key ∈ out, intentKey t key = key) :
    normalizeEvidenceIntents t out = out := by
  rw [normalizeEvidenceIntents_of_ne_nil t hout, List.map_congr_left hfixed, List.map_id']
  exact firstTimes_of_nodup hnodup fun _ _ ↦ List.not_mem_nil

theorem normalizeEvidenceIntents_nil (t : Text) :
    normalizeEvidenceIntents t [] = ["metrics", "logs", "recent_changes"] := rfl

end

/-- **The normalisation returns the keys of its strings, at their first occurrence, and returns its
own results as they are.** -/
theorem normalizeEvidenceIntents_normalized (t : Text) (ht : t.Settles) (raw : List String) :
    NormalIntents t raw (normalizeEvidenceIntents t raw) := by
  cases raw with
  | nil =>
    have hfixed : ∀ key ∈ ["metrics", "logs", "recent_changes"], intentKey t key = key := by
      intro key hkey
      have hall : ∀ key ∈ ["metrics", "logs", "recent_changes"],
          key ∈ collectorKeys ∧ canonicalIntent key = key := by decide
      rw [intentKey, ht.collectorKeys key (hall key hkey).1, (hall key hkey).2]
    rw [normalizeEvidenceIntents_nil]
    exact ⟨by decide, by decide, normalizeEvidenceIntents_of_fixed (by decide) (by decide) hfixed,
      fun h ↦ absurd rfl h, fun h ↦ absurd rfl h⟩
  | cons item raw =>
    have hraw : item :: raw ≠ [] := List.cons_ne_nil item raw
    have hmem : intentKey t item ∈ normalizeEvidenceIntents t (item :: raw) :=
      (mem_normalizeEvidenceIntents hraw).mpr ⟨item, List.mem_cons_self, rfl⟩
    have hnonempty := List.ne_nil_of_mem hmem
    have hnodup : (normalizeEvidenceIntents t (item :: raw)).Nodup := by
      rw [normalizeEvidenceIntents_of_ne_nil t hraw]
      exact nodup_firstTimes _ _
    refine ⟨hnonempty, hnodup, ?_, fun _ key ↦ ?_, fun _ ↦ ?_⟩
    · refine normalizeEvidenceIntents_of_fixed hnonempty hnodup fun key hkey ↦ ?_
      obtain ⟨x, -, rfl⟩ := (mem_normalizeEvidenceIntents hraw).mp hkey
      exact intentKey_intentKey ht x
    · rw [mem_normalizeEvidenceIntents hraw]
      simp only [isKeyOf_iff]
    · rw [normalizeEvidenceIntents_of_ne_nil t hraw]
      exact pairwise_firstTimes _ _

theorem normalizeEvidenceIntents_normalized_ascii :
    NormalIntents Text.ascii [" Logs", "heap dumps", "logging", "metric"]
      (normalizeEvidenceIntents Text.ascii [" Logs", "heap dumps", "logging", "metric"]) :=
  normalizeEvidenceIntents_normalized Text.ascii Text.ascii_standard.settles _

example : normalizeEvidenceIntents Text.ascii [" Logs", "heap dumps", "logging", "metric"] =
    ["logs", "heap dumps", "metrics"] := by decide +kernel

end IncidentPlatform
