import SystemWeaved.Lib.Simulation
import SystemWeaved.Spec.Mdns

/-!
# What is advertised over mDNS

The model is the last publication: a publication replaces it and a stop clears it, whatever
Avahi does in between.

* `Remembers`: the entry group and the remembered fields are both those of the publication.
* `publication_simulation`: the client follows the model, event by event.
* `advertised_last`: what is advertised is the last publication, if Avahi does what it documents;
  each of the three ways to publish is as good as publishing anew, and republishing changes nothing.
-/

namespace SystemWeaved

/-- A publication: the arguments of `PublishService`. -/
structure Publication where
  serviceType : String
  port : UInt16
  txt : List String
  deriving DecidableEq, Repr

/-- The service in the entry group for a publication. -/
def Publication.service (name : String) (p : Publication) : AvahiService :=
  ⟨cStr name, p.serviceType, p.port, p.txt⟩

namespace AvahiMdnsClient

variable {A : Avahi} {s t : AvahiMdnsClient} {p : Option Publication}

/-- The last publication after one more event. -/
def publish (p : Option Publication) : Event → Option Publication
  | .publishService serviceType port txt => some ⟨serviceType, port, txt⟩
  | .stopPublishing _ => none
  | .stateUpdate _ | .restarted => p

/-- The last publication that no stop follows. -/
def lastPublication (es : List Event) : Option Publication := es.foldl publish none

/-- The model: the last publication. -/
def publications : Machine (Option Publication) Event where
  start p := p = none
  next p e := some (publish p e)

theorem publications_run (p : Option Publication) (es : List Event) :
    publications.run p es = some (es.foldl publish p) := by
  induction es generalizing p with
  | nil => rfl
  | cons e es ih => exact ih _

/-- The event publishes the one allowed type, with a TXT list of C strings. -/
def Event.Allowed : Event → Prop
  | .publishService serviceType _ txt => serviceType = "_privet._tcp" ∧ ∀ x ∈ txt, NulFree x
  | _ => True

/-- **The group and the remembered fields are those of the publication.** -/
inductive Remembers (s : AvahiMdnsClient) : Option Publication → Prop
  | nothing (hgroup : s.group = {}) (htype : s.prevServiceType = "") (hport : s.prevPort = 0)
      (htxt : s.txtRecords = []) : Remembers s none
  | published (p : Publication) (hallowed : p.serviceType = "_privet._tcp") (hnul : ∀ x ∈ p.txt, NulFree x)
      (hgroup : s.group = ⟨[p.service s.serviceName], true⟩) (htype : s.prevServiceType = p.serviceType)
      (hport : s.prevPort = p.port) (htxt : s.txtRecords = p.txt) : Remembers s (some p)

theorem Remembers.group_empty (hs : Remembers s p) (h : p = none) : s.group = {} := by
  subst h
  cases hs with
  | nothing hgroup => exact hgroup

/-- The client that has published `p` and nothing else. -/
def after (s : AvahiMdnsClient) (p : Publication) : AvahiMdnsClient :=
  { s with
    prevPort := p.port
    prevServiceType := p.serviceType
    txtRecords := p.txt
    group := ⟨[p.service s.serviceName], true⟩ }

theorem map_cStr {txt : List String} (h : ∀ x ∈ txt, NulFree x) : txt.map cStr = txt := by
  rw [List.map_congr_left fun x hx => cStr_eq (h x hx), List.map_id']

theorem type_nulFree : NulFree "_privet._tcp" := by decide

theorem type_ne_empty : "_privet._tcp" ≠ "" := by decide

/-- The way that resets the group and adds the service, which every other port or type takes. -/
theorem publishService_anew {p : Publication} (hallowed : p.serviceType = "_privet._tcp")
    (hnul : ∀ x ∈ p.txt, NulFree x) (h : ¬(s.prevPort = p.port ∧ s.prevServiceType = p.serviceType)) :
    s.publishService A p.serviceType p.port p.txt = some (s.after p) := by
  obtain ⟨serviceType, port, txt⟩ := p
  obtain rfl : serviceType = "_privet._tcp" := hallowed
  have hskip : ¬(s.prevPort = port ∧ s.prevServiceType = "_privet._tcp" ∧ s.txtRecords = txt) :=
    fun hs => h ⟨hs.1, hs.2.1⟩
  have hempty : A.isEmpty (A.reset s.group) = true := (A.isEmpty_iff _).2 (by rw [A.reset_eq])
  have hadd : A.addService (A.reset s.group) ⟨cStr s.serviceName, "_privet._tcp", port, txt⟩ =
      some ⟨[⟨cStr s.serviceName, "_privet._tcp", port, txt⟩], false⟩ := by
    rw [A.reset_eq]
    exact A.addService_eq {} _ rfl rfl
  unfold publishService
  dsimp only at h hnul ⊢
  rw [if_neg (not_not.2 rfl), if_neg hskip, if_neg h, map_cStr hnul, cStr_eq type_nulFree, hempty, hadd,
    Option.bind_some, A.commit_eq _ rfl (List.cons_ne_nil _ _)]
  rfl

/-- The way that updates the TXT record. -/
theorem publishService_update {p q : Publication} (hp : Remembers s (some p)) (hport : q.port = p.port)
    (htype : q.serviceType = p.serviceType) (hnul : ∀ x ∈ q.txt, NulFree x) (htxt : q.txt ≠ p.txt) :
    s.publishService A q.serviceType q.port q.txt = some (s.after q) := by
  cases hp with
  | published _ hallowed _ hgroup hprev hprevPort hprevTxt =>
    obtain ⟨serviceType, port, txt⟩ := q
    obtain rfl : port = p.port := hport
    obtain rfl : serviceType = p.serviceType := htype
    have hskip : ¬(s.prevPort = p.port ∧ s.prevServiceType = p.serviceType ∧ s.txtRecords = txt) :=
      fun hs => htxt (hs.2.2.symm.trans hprevTxt)
    have hsame : s.prevPort = p.port ∧ s.prevServiceType = p.serviceType := ⟨hprevPort, hprev⟩
    have hthere : AvahiEntryGroup.hasService ⟨[p.service s.serviceName], true⟩ (cStr s.serviceName) "_privet._tcp" =
        true := by
      simp [AvahiEntryGroup.hasService, Publication.service, hallowed]
    unfold publishService
    dsimp only at hnul ⊢
    rw [if_neg (not_not.2 hallowed.symm), if_neg hskip, if_pos hsame, map_cStr hnul, hallowed, cStr_eq type_nulFree,
      hgroup, A.updateServiceTxt_eq _ _ _ _ hthere]
    simp [Publication.service, after, hallowed, hprev, hprevPort]

/-- **All three ways to publish lead to the same state.** -/
theorem publishService_eq {q : Publication} (hs : Remembers s p) (hallowed : q.serviceType = "_privet._tcp")
    (hnul : ∀ x ∈ q.txt, NulFree x) : s.publishService A q.serviceType q.port q.txt = some (s.after q) := by
  cases hs with
  | nothing hgroup htype hport htxt =>
    refine publishService_anew hallowed hnul fun h => type_ne_empty ?_
    rw [← hallowed, ← h.2, htype]
  | published p hallowed' hnul' hgroup htype hport htxt =>
    by_cases hsame : s.prevPort = q.port ∧ s.prevServiceType = q.serviceType
    · have hport' : q.port = p.port := hsame.1.symm.trans hport
      have htype' : q.serviceType = p.serviceType := hsame.2.symm.trans htype
      by_cases htxt' : q.txt = p.txt
      · -- nothing to do: the publication is the remembered one
        obtain rfl : q = p := by
          cases q
          cases p
          simp_all
        unfold publishService
        rw [if_neg (not_not.2 hallowed.symm), if_pos ⟨hport, htype, htxt⟩]
        unfold after
        rw [← hgroup, ← htype, ← hport, ← htxt]
      · exact publishService_update (.published p hallowed' hnul' hgroup htype hport htxt) hport' htype' hnul htxt'
    · exact publishService_anew hallowed hnul hsame

theorem after_remembers (s : AvahiMdnsClient) {q : Publication} (hallowed : q.serviceType = "_privet._tcp")
    (hnul : ∀ x ∈ q.txt, NulFree x) : Remembers (s.after q) (some q) := .published q hallowed hnul rfl rfl rfl rfl

theorem stopPublishing_remembers (A : Avahi) (s : AvahiMdnsClient) (serviceType : String) :
    Remembers (s.stopPublishing A serviceType) none := .nothing (A.reset_eq _) rfl rfl rfl

/-- Publishing anew after a stop is as good. -/
theorem publishService_stopped {q : Publication} (hallowed : q.serviceType = "_privet._tcp")
    (hnul : ∀ x ∈ q.txt, NulFree x) (serviceType : String) :
    (s.stopPublishing A serviceType).publishService A q.serviceType q.port q.txt = some (s.after q) :=
  publishService_eq (stopPublishing_remembers A s serviceType) hallowed hnul

/-- **Republishing restores the client**, whatever has become of the group. -/
theorem republishService_eq (hs : Remembers s p) (g : AvahiEntryGroup) (hg : p = none → g = {}) :
    republishService A { s with group := g } = some s := by
  unfold republishService
  cases hs with
  | nothing hgroup htype hport htxt =>
    rw [if_pos htype, hg rfl, ← hgroup]
  | published p hallowed hnul hgroup htype hport htxt =>
    have hne : s.prevServiceType ≠ "" := by
      rw [htype, hallowed]
      exact type_ne_empty
    rw [if_neg hne]
    dsimp only
    rw [htype, hport, htxt, publishService_stopped hallowed hnul]
    unfold after
    rw [← hgroup, ← htype, ← hport, ← htxt]

/-- **One event.** -/
theorem next_remembers {e : Event} (hs : Remembers s p) (he : e.Allowed) :
    ∃ t, s.next A e = some t ∧ Remembers t (publish p e) ∧ t.serviceName = s.serviceName := by
  cases e with
  | publishService serviceType port txt =>
    have heq := publishService_eq (A := A) (q := ⟨serviceType, port, txt⟩) hs he.1 he.2
    exact ⟨_, heq, after_remembers s he.1 he.2, rfl⟩
  | stopPublishing serviceType => exact ⟨_, rfl, stopPublishing_remembers A s serviceType, rfl⟩
  | stateUpdate state =>
    refine ⟨s, ?_, hs, rfl⟩
    simp only [next, onAvahiClientStateUpdate]
    split
    · exact republishService_eq hs s.group hs.group_empty
    · rfl
  | restarted =>
    refine ⟨s, ?_, hs, rfl⟩
    simp only [next, onAvahiClientStateUpdate, if_true]
    exact republishService_eq hs _ fun _ => rfl

/-- The client follows the model. -/
theorem publication_simulation (A : Avahi) (name : String) :
    Simulation (machine A) publications Event.Allowed some fun s p => Remembers s p ∧ s.serviceName = name where
  skip s p e t _ _ hsome := by cases hsome
  step s p e t d h he hsome hn := by
    obtain rfl := Option.some_inj.1 hsome
    obtain ⟨u, hu, hrem, hname⟩ := next_remembers (A := A) h.1 he
    obtain rfl : u = t := Option.some_inj.1 (hu.symm.trans hn)
    exact ⟨publish p e, rfl, hrem, hname.trans h.2⟩

/-- No call fails a `CHECK`. -/
theorem run_isSome {es : List Event} (hs : Remembers s p) (h : ∀ e ∈ es, e.Allowed) :
    ∃ t, (machine A).run s es = some t := by
  induction es generalizing s p with
  | nil => exact ⟨s, rfl⟩
  | cons e es ih =>
    obtain ⟨he, hes⟩ := List.forall_mem_cons.1 h
    obtain ⟨u, hu, hrem, -⟩ := next_remembers (A := A) hs he
    obtain ⟨t, ht⟩ := ih hrem hes
    exact ⟨t, (Machine.run_cons (M := machine A) hu es).trans ht⟩

theorem Remembers.entries (hs : Remembers s p) :
    s.group.entries = (p.map (Publication.service s.serviceName)).toList ∧
      s.group.advertised = (p.map (Publication.service s.serviceName)).toList := by
  cases hs with
  | nothing hgroup =>
    rw [hgroup]
    exact ⟨rfl, rfl⟩
  | published p _ _ hgroup =>
    rw [hgroup]
    exact ⟨rfl, rfl⟩

/-- **What is advertised is always the last publication.** -/
theorem advertised_last (A : Avahi) (name : String) {es : List Event} (h : ∀ e ∈ es, e.Allowed) :
    ∃ t, (machine A).run { serviceName := name } es = some t ∧
      t.group.entries = ((lastPublication es).map (Publication.service name)).toList ∧
      t.group.advertised = ((lastPublication es).map (Publication.service name)).toList ∧
      (∀ serviceType port txt, (Event.publishService serviceType port txt).Allowed →
        t.publishService A serviceType port txt =
          (t.stopPublishing A serviceType).publishService A serviceType port txt) ∧
      t.next A (.stateUpdate .running) = some t ∧ t.next A .restarted = some t := by
  have hstart : Remembers { serviceName := name } none := .nothing rfl rfl rfl rfl
  obtain ⟨t, ht⟩ := run_isSome (A := A) hstart h
  obtain ⟨p, hp, hrem, rfl⟩ := (publication_simulation A name).run ⟨hstart, rfl⟩ h ht
  rw [List.filterMap_some, publications_run] at hp
  obtain rfl : lastPublication es = p := Option.some_inj.1 hp
  obtain ⟨hentries, hadvertised⟩ := hrem.entries
  refine ⟨t, ht, hentries, hadvertised, ?_, ?_, ?_⟩
  · intro serviceType port txt hallowed
    have heq := publishService_eq (A := A) (q := ⟨serviceType, port, txt⟩) hrem hallowed.1 hallowed.2
    have hstopped := publishService_stopped (A := A) (s := t) (q := ⟨serviceType, port, txt⟩) hallowed.1 hallowed.2 serviceType
    exact heq.trans hstopped.symm
  · simpa only [next, onAvahiClientStateUpdate, if_true] using republishService_eq hrem t.group hrem.group_empty
  · simpa only [next, onAvahiClientStateUpdate, if_true] using republishService_eq hrem {} fun _ => rfl

/-- An Avahi that refuses what it documents to refuse, and nothing else. -/
def documented : Avahi where
  reset _ := {}
  isEmpty group := group.entries.isEmpty
  addService group service :=
    if group.committed || group.hasService service.name service.type then none
    else some { group with entries := group.entries ++ [service] }
  updateServiceTxt group name type txt :=
    if group.hasService name type then
      some { group with entries := group.entries.map fun e => if e.name = name ∧ e.type = type then { e with txt } else e }
    else none
  commit group := if group.committed || group.entries.isEmpty then none else some { group with committed := true }
  reset_eq _ := rfl
  isEmpty_iff _ := List.isEmpty_iff
  addService_eq group service hcommitted hnew := by simp [hcommitted, hnew]
  updateServiceTxt_eq group name type txt hthere := by simp [hthere]
  commit_eq group hcommitted hentries := by simp [hcommitted, hentries]

/-- A publication, an update of its TXT record, a loss of the group and another port. -/
def privetRun : List Event :=
  [.publishService "_privet._tcp" 80 ["id=1"], .publishService "_privet._tcp" 80 ["id=2"], .restarted,
   .publishService "_privet._tcp" 8080 ["id=2"]]

theorem advertised_last_test :
    ∃ t, (machine documented).run { serviceName := "device" } privetRun = some t ∧
      t.group.entries = ((lastPublication privetRun).map (Publication.service "device")).toList ∧
      t.group.advertised = ((lastPublication privetRun).map (Publication.service "device")).toList ∧
      (∀ serviceType port txt, (Event.publishService serviceType port txt).Allowed →
        t.publishService documented serviceType port txt =
          (t.stopPublishing documented serviceType).publishService documented serviceType port txt) ∧
      t.next documented (.stateUpdate .running) = some t ∧ t.next documented .restarted = some t := by
  refine advertised_last documented "device" fun e he => ?_
  simp only [privetRun, List.mem_cons, List.not_mem_nil, or_false] at he
  rcases he with rfl | rfl | rfl | rfl
  · exact ⟨rfl, by decide⟩
  · exact ⟨rfl, by decide⟩
  · trivial
  · exact ⟨rfl, by decide⟩

end AvahiMdnsClient

end SystemWeaved
