import IncidentPlatform.Workflow.Jobs

/-!
# Queued jobs and their audit events

The payload of a job is a JSON text with the incident id pasted in. `decodeJob_iff` says which ids
the worker gets back: those without quotation marks, backslashes and control characters. The
converse is the harder half. An id can close its string and go on with members of its own, and the
last `incident_id` counts. If that is a string, it is too short. If it is anything else, it is
printed by `str`, and Python's notation is never the JSON text around it.

A job that is decoded leads to one event, unless a call raises. The worker has taken the job off the
queue by then, and only logs the exception. `job_accounted_iff` puts the two together.
-/

namespace IncidentPlatform

open Interaction Encoding

/-! ## The payload -/

variable (py : Python)

/-- The key of the only member that is meant to be there. -/
def jobKey : List Char := "incident_id".toList

theorem jobPayload_toList (incidentId : String) : (jobPayload incidentId).toList
    = '\x7b' :: '"' :: (jobKey ++ '"' :: ':' :: '"' :: (incidentId.toList ++ ['"', '\x7d'])) := by
  let opening := "\x7b\"incident_id\":\""
  let closing := "\"\x7d"
  have hopening : opening.toList = '\x7b' :: '"' :: (jobKey ++ ['"', ':', '"']) := by decide
  have hclosing : closing.toList = ['"', '\x7d'] := by decide
  have htext : (jobPayload incidentId).toList
      = opening.toList ++ (incidentId.toList ++ closing.toList) := calc
    (jobPayload incidentId).toList
    _ = (opening ++ incidentId).toList ++ closing.toList := String.toList_append
    _ = opening.toList ++ incidentId.toList ++ closing.toList :=
      congrArg (· ++ closing.toList) String.toList_append
    _ = opening.toList ++ (incidentId.toList ++ closing.toList) := List.append_assoc _ _ _
  rw [htext, hopening, hclosing, List.cons_append, List.cons_append, List.append_assoc]
  rfl

/-- Up to the id the payload is what the decoder expects. -/
theorem loads_payload (incidentId : String) : ∃ d k, loads py (jobPayload incidentId).toList
    = (scanString (incidentId.toList ++ ['"', '\x7d'])).bind fun r ↦
      (Scanner.further space '\x7d'
        (Scanner.commaSeparated space (member (scanValue py d)) '\x7d' k) r.2).bind fun t ↦
          if t.2.dropWhile isSpace = [] then
            some (.obj (dict ((jobKey.map Char.toNat, .str r.1) :: t.1))) else none := by
  obtain ⟨d, hd⟩ := Nat.exists_eq_add_of_le py.shallow
  have hkey : Plain jobKey := by
    have hall : (jobKey.all fun c ↦ decide (c ≠ '"' ∧ c ≠ '\\' ∧ 0x20 ≤ c.toNat)) = true := by
      decide
    exact fun c hc ↦ of_decide_eq_true (List.all_eq_true.mp hall c hc)
  obtain ⟨k, hk⟩ := scanValue_object py d hkey (incidentId.toList ++ ['"', '\x7d'])
  refine ⟨d + 1, k, ?_⟩
  have hdepth : py.depth = d + 2 := by omega
  rw [← hdepth] at hk
  rw [jobPayload_toList, loads, if_neg (by simp), Scanner.andThen_of_eq (space_cons _ (by decide))]
  refine (congrArg (Option.bind · _) hk).trans ?_
  rcases scanString (incidentId.toList ++ ['"', '\x7d']) with _ | ⟨s, rest⟩
  · rfl
  · change ((Scanner.further _ _ _ rest).map _).bind _ = (Scanner.further _ _ _ rest).bind _
    generalize Scanner.further _ _ _ rest = others
    cases others <;> rfl

/-! ## Ids that come back as they are -/

/-- Where the first string of the payload ends. -/
theorem payload_split {id w rest : List Char} (h : id ++ ['"', '\x7d'] = w ++ '"' :: rest) :
    w = id ∧ rest = ['\x7d'] ∨
      ∃ rest', id = w ++ '"' :: rest' ∧ rest = rest' ++ ['"', '\x7d'] := by
  rcases List.append_eq_append_iff.mp h with ⟨w', rfl, hw'⟩ | ⟨w', rfl, hw'⟩
  · rcases w' with _ | ⟨c, _ | ⟨d, w'⟩⟩
    · cases hw'
      exact Or.inl ⟨List.append_nil id, rfl⟩
    · cases hw'
    · cases w' <;> cases hw'
  · cases w' with
    | nil =>
      cases hw'
      exact Or.inl ⟨(List.append_nil w).symm, rfl⟩
    | cons c w' =>
      obtain ⟨rfl, rfl⟩ := List.cons.inj hw'
      exact Or.inr ⟨w', rfl, rfl⟩

variable {incidentId : String}

theorem decodeJob_plain (h : Plain incidentId.toList) :
    decodeJob py (jobPayload incidentId) = some (codePoints incidentId) := by
  obtain ⟨d, k, hloads⟩ := loads_payload py incidentId
  rw [scanString_plain h ['\x7d'], Option.bind_some] at hloads
  rw [decodeJob, hloads]
  rfl

/-- What a job decodes to, in terms of the text after the opening quotation mark. -/
theorem decodeJob_eq {s : PyStr} (h : decodeJob py (jobPayload incidentId) = some s) :
    ∃ first rest d k others rest',
      scanString (incidentId.toList ++ ['"', '\x7d']) = some (first, rest) ∧
      Scanner.further space '\x7d'
        (Scanner.commaSeparated space (member (scanValue py d)) '\x7d' k) rest
          = some (others, rest') ∧
      (s = first ∨ ∃ m ∈ others, s = m.2.toStr py) := by
  obtain ⟨d, k, hloads⟩ := loads_payload py incidentId
  rw [decodeJob, hloads] at h
  obtain ⟨v, hv, rfl⟩ := Option.map_eq_some_iff.mp h
  obtain ⟨object, hobject, hitem⟩ := Option.bind_eq_some_iff.mp hv
  obtain ⟨⟨first, rest⟩, hfirst, hobject⟩ := Option.bind_eq_some_iff.mp hobject
  obtain ⟨⟨others, rest'⟩, hothers, hobject⟩ := Option.bind_eq_some_iff.mp hobject
  refine ⟨first, rest, d, k, others, rest', hfirst, hothers, ?_⟩
  split_ifs at hobject
  cases hobject
  obtain ⟨m, hm, rfl⟩ := Option.map_eq_some_iff.mp hitem
  rcases List.mem_cons.mp (mem_dict (List.mem_of_find?_eq_some hm)) with rfl | hm
  · exact Or.inl rfl
  · exact Or.inr ⟨m, hm, rfl⟩

theorem scanMembers_keeps {I : List Char → Prop} {P : PyStr → Prop} (hI : Scanner.Sheds I '\\')
    (hstring : scanString.Keeps I P) (d k : ℕ) :
    (Scanner.commaSeparated space (member (scanValue py d)) '\x7d' k).Keeps I
      fun ms ↦ ∀ m ∈ ms, P m.1 ∧ m.2.Holds P :=
  Scanner.Keeps.commaSeparated hI (space_keeps hI)
    (member_keeps hI (scanValue_keeps hI py hstring d) hstring) (by decide) (by decide) k

/-- After the first value there is no apostrophe before the next key. -/
theorem not_opens {id w rest u u' input : List Char}
    (hsplit : id ++ ['"', '\x7d'] = w ++ '"' :: rest) (hw : '"' ∉ w)
    (hrest : rest = u ++ ',' :: (u' ++ '"' :: input)) (hu : ∀ c ∈ u, isSpace c = true)
    (hu' : ∀ c ∈ u', isSpace c = true) : ¬ Opens id := by
  intro hopens
  rcases payload_split hsplit with ⟨-, hend⟩ | ⟨rest', hid, hrest'⟩
  · have hcomma : ',' ∈ rest := hrest ▸ List.mem_append_right u List.mem_cons_self
    rw [hend] at hcomma
    exact absurd hcomma (by decide)
  · have hspace (c : Char) (hc : c ∈ u ++ ',' :: u') : isSpace c = true ∨ c = ',' := by
      rcases List.mem_append.mp hc with hc | hc
      · exact Or.inl (hu c hc)
      · exact (List.mem_cons.mp hc).symm.imp_left (hu' c)
    have hbetween : rest'.takeWhile (· != '"') = u ++ ',' :: u' := calc
      rest'.takeWhile (· != '"')
      _ = rest.takeWhile (· != '"') := by
        rw [hrest', List.takeWhile_append]
        split_ifs with hall
        · rw [List.takeWhile_cons_of_neg (by decide), List.append_nil,
            (List.takeWhile_sublist _).eq_of_length hall]
        · rfl
      _ = u ++ ',' :: u' := by
        rw [hrest, ← List.cons_append, ← List.append_assoc, List.takeWhile_append_of_pos,
          List.takeWhile_cons_of_neg (by decide), List.append_nil]
        intro c hc
        rcases hspace c hc with hc | rfl
        · refine bne_iff_ne.mpr ?_
          rintro rfl
          exact absurd hc (by decide)
        · rfl
    have hapostrophe := hopens w rest' hid hw
    rw [hbetween] at hapostrophe
    rcases hspace _ hapostrophe with h | h
    · exact absurd h (by decide)
    · exact absurd h (by decide)

section

variable {py} {first : PyStr} {rest rest' : List Char} {d k : ℕ}
  {others : List (PyStr × Json py.Num)} {m : PyStr × Json py.Num}

/-- A string behind the first value is shorter than the id. -/
theorem length_lt_of_later {s : PyStr}
    (hfirst : scanString (incidentId.toList ++ ['"', '\x7d']) = some (first, rest))
    (hothers : Scanner.further space '\x7d'
      (Scanner.commaSeparated space (member (scanValue py d)) '\x7d' k) rest = some (others, rest'))
    (hm : m ∈ others) (hvalue : m.2 = .str s) : s.length < incidentId.toList.length := by
  obtain ⟨w, hsplit, -⟩ := scanString_text hfirst
  obtain ⟨u, u', input, hrest, -, -, hmore⟩ :=
    Scanner.further_more hothers (List.ne_nil_of_mem hm)
  have hinput : input.length ≤ incidentId.toList.length := by
    have htotal := congrArg List.length hsplit
    simp only [hrest, List.length_append, List.length_cons, List.length_nil] at htotal
    omega
  have hkept := scanMembers_keeps py (fun _ _ _ h ↦ Nat.le_of_succ_le h)
    (scanString_keeps_length incidentId.toList.length) d k _ _ _ hinput hmore
  have hshort := (hkept.2 m hm).2
  rw [hvalue] at hshort
  cases hshort with
  | str hshort => exact hshort

/-- A value behind the first one is not printed as the id. If it were, no escape in the id would
stand for a quotation mark, so no string of the value would have one. But then the printed text
would not have a quotation mark where the first value ends. -/
theorem repr_ne_of_later
    (hfirst : scanString (incidentId.toList ++ ['"', '\x7d']) = some (first, rest))
    (hothers : Scanner.further space '\x7d'
      (Scanner.commaSeparated space (member (scanValue py d)) '\x7d' k) rest = some (others, rest'))
    (hm : m ∈ others) : m.2.repr py ≠ incidentId.toList := by
  intro htext
  obtain ⟨u, u', input, hrest, hu, hu', hmore⟩ :=
    Scanner.further_more hothers (List.ne_nil_of_mem hm)
  have hvalue := ((scanMembers_keeps py (P := fun _ ↦ True) (fun _ _ _ _ ↦ trivial)
    (fun _ _ _ _ _ ↦ ⟨trivial, trivial⟩) d k _ _ _ trivial hmore).2 m hm).2
  have hclean : Encoding.Clean incidentId.toList :=
    htext ▸ hvalue.repr clean_textual fun s _ ↦ reprStr_clean py s
  obtain ⟨hclean, -, w, hsplit, hw⟩ :=
    scanString_clean hfirst (hclean.append (clean_of_plain (by decide)))
  have hspaces {v : List Char} (hv : ∀ c ∈ v, isSpace c = true) : '\\' ∉ v :=
    fun h ↦ absurd (hv _ h) (by decide)
  rw [hrest] at hclean
  have hinput : Encoding.Clean input := Encoding.Clean.sheds.append (hspaces hu')
    (Encoding.Clean.sheds _ _ (by decide) (Encoding.Clean.sheds.append (hspaces hu) hclean))
  have hfree := ((scanMembers_keeps py Encoding.Clean.sheds (fun _ _ _ h hrun ↦
    ⟨(scanString_clean hrun h).1, (scanString_clean hrun h).2.1⟩) d k _ _ _ hinput hmore).2 m hm).2
  have hopens : Opens incidentId.toList :=
    htext ▸ hfree.repr opens_textual fun s hs ↦ reprStr_opens py hs
  obtain ⟨_, _, hmember⟩ := Scanner.commaSeparated_first hmore
  obtain ⟨_, _, hquote, -⟩ := Scanner.eq_some_of_andThen hmember
  rw [Scanner.eq_of_char hquote] at hrest
  exact not_opens hsplit hw hrest hu hu' hopens

end

/-- **Only a plain id comes back.** -/
theorem plain_of_decodeJob
    (h : decodeJob py (jobPayload incidentId) = some (codePoints incidentId)) :
    Plain incidentId.toList := by
  obtain ⟨first, rest, d, k, others, rest', hfirst, hothers, hs⟩ := decodeJob_eq py h
  have hlength : (codePoints incidentId).length = incidentId.toList.length := List.length_map _
  rcases hs with rfl | ⟨m, hm, hstr⟩
  · obtain ⟨w, hsplit, hle, hplain⟩ := scanString_text hfirst
    rcases payload_split hsplit with ⟨rfl, -⟩ | ⟨tail, hid, -⟩
    · exact hplain hlength
    · rw [hlength, hid, List.length_append, List.length_cons] at hle
      omega
  · exfalso
    rcases toStr_eq py m.2 with ⟨s, hvalue⟩ | hrepr
    · have hshort := length_lt_of_later hfirst hothers hm hvalue
      rw [hvalue] at hstr
      exact absurd ((congrArg List.length hstr).symm.trans hlength) hshort.ne
    · refine repr_ne_of_later hfirst hothers hm ?_
      exact (List.map_injective_iff.mpr fun _ _ ↦ Char.toNat_inj.mp) (hrepr.symm.trans hstr.symm)

theorem decodeJob_iff : decodeJob py (jobPayload incidentId) = some (codePoints incidentId)
    ↔ Plain incidentId.toList := ⟨plain_of_decodeJob py, decodeJob_plain py⟩

/-! ## Audit events of a job -/

/-- The call raised. -/
def JobOp.Raised : (o : JobOp) → JobAns o → Prop
  | .get _, .error _ | .rpush _, .error _ | .executeRoute _, .error _
  | .audit _ _ _, .error _ => True
  | _, _ => False

/-- An event that accounts for a job is recorded. -/
def JobOp.accounts (incidentId : PyStr) : (o : JobOp) → JobAns o → Bool
  | .audit eventType id _, .ok _ =>
    (eventType == "worker_job_completed" || eventType == "worker_job_failed") && id == incidentId
  | _, _ => false

/-- How many events of a run account for a job. -/
def accountsOf (incidentId : PyStr) (events : List (Prog.Event JobOp JobAns)) : ℕ :=
  events.countP fun e ↦ e.1.accounts incidentId e.2

/-- A run leads to one event, or a call of it raised. -/
def Accounted (incidentId : PyStr) (events : List (Prog.Event JobOp JobAns)) : Prop :=
  accountsOf incidentId events = 1 ↔ ∀ e ∈ events, ¬ e.1.Raised e.2

section

variable {id : PyStr} {e : Prog.Event JobOp JobAns} {events : List (Prog.Event JobOp JobAns)}

theorem Accounted.cons (h : Accounted id events) (hquiet : e.1.accounts id e.2 = false)
    (hfine : ¬ e.1.Raised e.2) : Accounted id (e :: events) := by
  have hcount : accountsOf id (e :: events) = accountsOf id events :=
    List.countP_cons_of_neg (by simp [hquiet])
  rw [Accounted, hcount, List.forall_mem_cons, and_iff_right hfine]
  exact h

theorem accounted_raised (hquiet : e.1.accounts id e.2 = false) (hraised : e.1.Raised e.2) :
    Accounted id [e] := by
  refine iff_of_false ?_ fun h ↦ h e List.mem_cons_self hraised
  simp [accountsOf, hquiet]

theorem accounted_event (haccounts : e.1.accounts id e.2 = true) (hfine : ¬ e.1.Raised e.2) :
    Accounted id [e] := by
  refine iff_of_true ?_ fun e' he' ↦ (List.mem_singleton.mp he') ▸ hfine
  simp [accountsOf, haccounts]

variable {σ : Type*} (serve : σ → (o : JobOp) → JobAns o × σ)

/-- The last call of a job. -/
theorem audit_accounted (eventType : String)
    (htype : eventType = "worker_job_completed" ∨ eventType = "worker_job_failed") (details : Dict)
    (s : σ) : Accounted id
      (((Prog.op (JobOp.audit eventType id details)).bind Prog.ofExcept).trace serve s) := by
  change Accounted id ((Prog.call (JobOp.audit eventType id details) Prog.ofExcept).trace serve s)
  rw [Prog.trace_call]
  rcases (serve s (.audit eventType id details)).1 with e | _
  · exact accounted_raised rfl trivial
  · refine accounted_event ?_ fun h ↦ h
    rcases htype with rfl | rfl <;> simp [JobOp.accounts]

theorem processFound_accounted (found : Option {r : IncidentRecord // codePoints r.incidentId = id})
    (s : σ) : Accounted id ((processFound id found).trace serve s) := by
  rcases found with _ | ⟨r, rfl⟩
  · exact audit_accounted serve _ (Or.inr rfl) _ s
  · change Accounted _ ((Prog.call (JobOp.executeRoute r) _).trace serve s)
    rw [Prog.trace_call]
    rcases (serve s (.executeRoute r)).1 with e | ⟨updated, hupdated⟩
    · exact accounted_raised rfl trivial
    · have hid : codePoints updated.incidentId = codePoints r.incidentId := congrArg _ hupdated
      refine Accounted.cons ?_ rfl fun h ↦ h
      exact (congrArg (Accounted · _) hid).mp (audit_accounted serve _ (Or.inl rfl) _ _)

theorem processJob_accounted (s : σ) : Accounted id ((processJob id).trace serve s) := by
  change Accounted id ((Prog.call (JobOp.get id) _).trace serve s)
  rw [Prog.trace_call]
  rcases (serve s (.get id)).1 with e | found
  · exact accounted_raised rfl trivial
  · exact (processFound_accounted serve found _).cons rfl fun h ↦ h

/-! ## Jobs -/

/-- No job stops the worker. -/
theorem runForever_total (items : List (Option String)) : (runForever py items).Total := by
  induction items with
  | nil => trivial
  | cons item items ih =>
    refine Prog.Total.bind ?_ fun _ ↦ ih
    cases item with
    | none => trivial
    | some payload => exact (Prog.attempt_total _).bind fun _ ↦ trivial

theorem workerIteration_trace (payload : String) (s : σ) :
    (workerIteration py (some payload)).trace serve s = (work py payload).trace serve s :=
  Prog.attempt_bind_trace serve _ _ s

/-- **Queued jobs are accounted for exactly if their ids are plain and nothing is raised.** For
every incident id and every outcome of the awaited calls, the pushed job is decoded to the id and
leads to one audit event for it, if and only if no character of the id is a quotation mark, a
backslash or a control character, and none of the calls of `_process_incident` raises. -/
theorem job_accounted_iff (incidentId : String) (s : σ) :
    (decodeJob py (jobPayload incidentId) = some (codePoints incidentId) ∧
      accountsOf (codePoints incidentId)
        ((workerIteration py (some (jobPayload incidentId))).trace serve s) = 1) ↔
    Plain incidentId.toList ∧
      ∀ e ∈ (processJob (codePoints incidentId)).trace serve s, ¬ e.1.Raised e.2 := by
  rw [decodeJob_iff]
  refine and_congr_right fun hplain ↦ ?_
  rw [workerIteration_trace, work, decodeJob_plain py hplain]
  exact processJob_accounted serve s

end

/-- An interpreter that prints a number as it was written, as `str` does for most integers. -/
def Python.demo : Python where
  Num := {literal : List Char // '"' ∉ literal ∧ '\\' ∉ literal}
  number literal := if h : '"' ∉ literal ∧ '\\' ∉ literal then some ⟨literal, h⟩ else none
  showNum n := n.1
  printable c := decide (0xa0 < c.toNat)
  depth := 1000
  shallow := by decide
  showNum_plain n := n.2

/-- An id with a quotation mark does not come back. -/
theorem quoted_id_lost :
    decodeJob Python.demo (jobPayload "inc\"1") ≠ some (codePoints "inc\"1") := by
  intro h
  have hplain := (decodeJob_iff Python.demo).mp h
  exact (hplain '"' (by decide)).1 rfl

end IncidentPlatform
