import Rollout.Json.Parser
import Rollout.Readiness.Status

/-!
# The address of a service

The cluster describes how a service is reached by a list of *entries*. An entry may hold two texts,
an `ip` and a host name, and a text that is empty is no address. What one would report is the first
entry that holds an address at all, and of its two texts the `ip` if that is one and else the host
name (`Rollout.Status.Reached`).

The verdict looks at the entries in that order, but within an entry it picks the text by name before
it has looked at the text. An `ip` that is there and is no address thus *hides* the host name beside
it (`Rollout.Status.Hides`).

* An address is found in an entry exactly if the entry is reached and hides nothing
  (`Rollout.Status.address?_eq_some_iff`).
* The verdict is therefore the one that one would give, unless the first entry that is reached hides
  its host name; and a service that is reached is taken for one that is not exactly if all of its
  addresses are hidden (`Rollout.Status.reported_evaluate`).
* `Rollout.Status.hidden_hostname` is such a service.
-/

namespace Rollout.Status

/-! ### Entries -/

/-- **An entry gives an address** under a name: a text that is not empty. -/
def Gives (entry : Json) (name address : String) : Prop :=
  entry.field? name = some (.text address) ∧ address ≠ ""

/-- **Where an entry is reached**: under its `ip` if that is an address, and else under its host
name. -/
inductive Reached (entry : Json) : String → Prop
  | ip {address : String} (h : Gives entry "ip" address) : Reached entry address
  | hostname {address : String} (hip : ∀ other, ¬Gives entry "ip" other)
      (h : Gives entry "hostname" address) : Reached entry address

/-- **An entry hides its host name** behind an `ip` that is there but is no address. -/
def Hides (entry : Json) : Prop :=
  (∃ value, entry.field? "ip" = some value) ∧ ∀ address, ¬Gives entry "ip" address

/-- An address that is not hidden. -/
def Found (entry : Json) (address : String) : Prop := Reached entry address ∧ ¬Hides entry

variable {entry object : Json} {name address : String} {entries : List Json}

/-- What is read from a value that is there. -/
theorem gives_iff {value : Json} (h : entry.field? name = some value) :
    Gives entry name address ↔ (value.text?.filter fun s => !s.isEmpty) = some address := by
  rw [Gives, h, Option.filter_eq_some_iff]
  cases value <;> simp [Json.text?]

/-- **An address is found exactly in the entries that are reached and hide nothing.** -/
theorem address?_eq_some_iff : address? entry = some address ↔ Found entry address := by
  have hread : address? entry =
      (((entry.field? "ip").or (entry.field? "hostname")).bind Json.text?).filter
        fun s => !s.isEmpty := rfl
  cases hip : entry.field? "ip" with
  | some value =>
    rw [hread, hip, Option.some_or, Option.bind_some, ← gives_iff hip]
    constructor
    · intro h
      exact ⟨.ip h, fun hides => hides.2 address h⟩
    · rintro ⟨⟨h⟩ | ⟨hnone, -⟩, hhides⟩
      · exact h
      · exact absurd ⟨⟨value, hip⟩, hnone⟩ hhides
  | none =>
    have hnone (other : String) : ¬Gives entry "ip" other := by
      rintro ⟨h, -⟩
      rw [hip] at h
      cases h
    have hshows : ¬Hides entry := by
      rintro ⟨⟨value, h⟩, -⟩
      rw [hip] at h
      cases h
    have hreached : Found entry address ↔ Gives entry "hostname" address := by
      constructor
      · rintro ⟨⟨h⟩ | ⟨-, h⟩, -⟩
        · exact absurd h (hnone address)
        · exact h
      · exact fun h => ⟨.hostname hnone h, hshows⟩
    rw [hread, hip, Option.none_or, hreached]
    cases hhost : entry.field? "hostname" with
    | some value => rw [Option.bind_some, ← gives_iff hhost]
    | none => simp [Gives, hhost]

theorem address?_eq_none_iff : address? entry = none ↔ ∀ address, ¬Found entry address := by
  rw [Option.eq_none_iff_forall_ne_some]
  exact forall_congr' fun _ => not_congr address?_eq_some_iff

/-! ### The verdict -/

/-- The entries of a service. -/
def HasEntries (object : Json) (entries : List Json) : Prop :=
  object.path? ["status", "loadBalancer", "ingress"] = some (.list entries)

/-- **What is to be said of a service**, where `At` tells at which addresses an entry is to be
had. -/
structure Located (At : Json → String → Prop) (object : Json) (status : Status) : Prop where
  /-- It is ready if and only if some entry has an address. -/
  ready_iff : status.ready = true ↔
    ∃ entries entry address, HasEntries object entries ∧ entry ∈ entries ∧ At entry address
  /-- The address of the first such entry is reported. -/
  first : ∀ before entry after address, HasEntries object (before ++ entry :: after) →
    (∀ e ∈ before, ∀ other, ¬At e other) → At entry address → status.detail = address
  /-- Else the address is pending. -/
  pending : status.ready = false → status.detail = "external address pending"

theorem ofService_of_entries (h : HasEntries object entries) :
    ofService object = match entries.findSome? address? with
      | some address => ⟨true, address⟩
      | none => ⟨false, "external address pending"⟩ := by
  rw [ofService, h, Option.bind_some]
  rfl

theorem ofService_of_no_entries (h : ∀ entries, ¬HasEntries object entries) :
    ofService object = ⟨false, "external address pending"⟩ := by
  have hnone :
      (object.path? ["status", "loadBalancer", "ingress"]).bind Json.items? = none := by
    rw [Option.eq_none_iff_forall_ne_some]
    intro entries hentries
    obtain ⟨value, hvalue, hitems⟩ := Option.bind_eq_some_iff.mp hentries
    obtain rfl : value = .list entries := by
      cases value <;> cases hitems
      rfl
    exact h entries hvalue
  rw [ofService, hnone]
  rfl

/-- **The verdict on a service**, for every object: it reports the first address that is found. -/
theorem located_ofService (object : Json) : Located Found object (ofService object) := by
  by_cases hentries : ∃ entries, HasEntries object entries
  · obtain ⟨entries, hentries⟩ := hentries
    have hunique {others : List Json} (h : HasEntries object others) : others = entries :=
      Json.list.inj (Option.some.inj (h.symm.trans hentries))
    rw [ofService_of_entries hentries]
    cases hfound : entries.findSome? address? with
    | some address =>
      obtain ⟨before, entry, after, rfl, hentry, hbefore⟩ :=
        List.findSome?_eq_some_iff.mp hfound
      refine ⟨⟨fun _ => ?_, fun _ => rfl⟩, ?_, nofun⟩
      · exact ⟨_, entry, address, hentries,
          List.mem_append_right _ List.mem_cons_self, address?_eq_some_iff.mp hentry⟩
      · intro before' entry' after' address' hentries' hbefore' hentry'
        have hfirst : (before' ++ entry' :: after').findSome? address? = some address' :=
          List.findSome?_eq_some_iff.mpr ⟨before', entry', after', rfl,
            address?_eq_some_iff.mpr hentry',
            fun e he => address?_eq_none_iff.mpr (hbefore' e he)⟩
        rw [hunique hentries', hfound] at hfirst
        exact Option.some.inj hfirst
    | none =>
      have hnone : ∀ e ∈ entries, ∀ address, ¬Found e address := fun e he =>
        address?_eq_none_iff.mp (List.findSome?_eq_none_iff.mp hfound e he)
      refine ⟨⟨nofun, ?_⟩, ?_, fun _ => rfl⟩
      · rintro ⟨others, entry, address, hothers, hentry, haddress⟩
        exact absurd haddress (hnone entry (hunique hothers ▸ hentry) address)
      · intro before entry after address hsplit _ hentry
        have hmem : entry ∈ entries :=
          hunique hsplit ▸ List.mem_append_right _ List.mem_cons_self
        exact absurd hentry (hnone entry hmem address)
  · have hnone (entries : List Json) : ¬HasEntries object entries := fun h => hentries ⟨entries, h⟩
    rw [ofService_of_no_entries hnone]
    refine ⟨⟨nofun, ?_⟩, ?_, fun _ => rfl⟩
    · rintro ⟨entries, -, -, h, -⟩
      exact absurd h (hnone entries)
    · intro before entry after address h
      exact absurd h (hnone _)

/-! ### The verdict and the addresses -/

/-- The first entry that is reached. -/
def FirstReached (object entry : Json) : Prop :=
  ∃ before after address, HasEntries object (before ++ entry :: after) ∧
    (∀ e ∈ before, ∀ other, ¬Reached e other) ∧ Reached entry address

theorem exists_firstReached (hentries : HasEntries object entries) (hmem : entry ∈ entries)
    (h : Reached entry address) : ∃ first, FirstReached object first := by
  classical
  have hsome : (entries.find? fun e => decide (∃ a, Reached e a)).isSome :=
    List.find?_isSome.mpr ⟨entry, hmem, decide_eq_true ⟨address, h⟩⟩
  obtain ⟨first, hfirst⟩ := Option.isSome_iff_exists.mp hsome
  obtain ⟨hreached, before, after, rfl, hbefore⟩ := List.find?_eq_some_iff_append.mp hfirst
  obtain ⟨a, ha⟩ := of_decide_eq_true hreached
  refine ⟨first, before, after, a, hentries, fun e he other hother => ?_, ha⟩
  have hnot := hbefore e he
  rw [decide_eq_true ⟨other, hother⟩] at hnot
  cases hnot

/-- **The verdict on a service and where the service is reached.** -/
structure Reported (object : Json) (status : Status) : Prop where
  /-- What is reported is the first address that is found. -/
  found : Located Found object status
  /-- That is where the service is reached, if the first entry that is reached hides nothing. -/
  reached : (∀ entry, FirstReached object entry → ¬Hides entry) → Located Reached object status
  /-- A service that is reached is missed if and only if all its addresses are hidden. -/
  missed_iff : status.ready = false ↔
    ∀ entries, HasEntries object entries → ∀ entry ∈ entries, ∀ address,
      Reached entry address → Hides entry

/-- **Every service is reported where an address of it is found**: that is where it is reached, but
for host names that are hidden. -/
theorem reported_evaluate (object : Json) :
    ∃ status, evaluate .service .externalIp object = .ok status ∧ Reported object status := by
  have hfound := located_ofService object
  refine ⟨ofService object, rfl, hfound, fun hshows => ⟨?_, ?_, hfound.pending⟩, ?_⟩
  · rw [hfound.ready_iff]
    constructor
    · rintro ⟨entries, entry, address, hentries, hmem, hentry⟩
      exact ⟨entries, entry, address, hentries, hmem, hentry.1⟩
    · rintro ⟨entries, entry, address, hentries, hmem, hentry⟩
      -- the entry itself may hide its host name, but the first one that is reached does not
      obtain ⟨first, hfirst⟩ := exists_firstReached hentries hmem hentry
      have hfirst' := hfirst
      obtain ⟨before, after, a, hsplit, -, ha⟩ := hfirst'
      exact ⟨_, first, a, hsplit, List.mem_append_right _ List.mem_cons_self, ha,
        hshows first hfirst⟩
  · intro before entry after address hsplit hbefore hentry
    have hfirst : FirstReached object entry := ⟨before, after, address, hsplit, hbefore, hentry⟩
    exact hfound.first before entry after address hsplit
      (fun e he other hother => hbefore e he other hother.1) ⟨hentry, hshows entry hfirst⟩
  · rw [← Bool.not_eq_true, hfound.ready_iff]
    constructor
    · intro hnone entries hentries entry hmem address hentry
      refine Classical.byContradiction fun hshown => hnone ?_
      exact ⟨entries, entry, address, hentries, hmem, hentry, hshown⟩
    · rintro hhides ⟨entries, entry, address, hentries, hmem, hentry, hshown⟩
      exact hshown (hhides entries hentries entry hmem address hentry)

/-! ### A service that is missed -/

/-- An entry with an empty `ip` and a host name. -/
def hidingEntry : Json := .object [("ip", .text ""), ("hostname", .text "lb.example.com")]

/-- A service that is reached by that entry. -/
def hidingService : Json :=
  .object [("status", .object [("loadBalancer", .object [("ingress", .list [hidingEntry])])])]

/-- How the cluster describes it. -/
def hidingText : String :=
  "\x7b\"status\":\x7b\"loadBalancer\":\x7b\"ingress\":[" ++
    "\x7b\"ip\":\"\",\"hostname\":\"lb.example.com\"\x7d]\x7d\x7d\x7d"

/-- The names and texts of an object that is built like that one. -/
def ingressTexts : Json → List String
  | .object [(status, .object [(balancer, .object [(ingress, .list [.object
      [(ip, .text number), (hostname, .text host)]])])])] =>
    [status, balancer, ingress, ip, number, hostname, host]
  | _ => []

theorem parse_hidingText : Json.parse hidingText = .ok hidingService := by
  have htexts : (Json.parse hidingText).toOption.map ingressTexts =
      some ["status", "loadBalancer", "ingress", "ip", "", "hostname", "lb.example.com"] := by
    decide +kernel
  cases hparse : Json.parse hidingText with
  | error e =>
    rw [hparse] at htexts
    cases htexts
  | ok j =>
    rw [hparse] at htexts
    have hj := Option.some.inj htexts
    unfold ingressTexts at hj
    split at hj
    · simp only [List.cons.injEq, and_true] at hj
      obtain ⟨rfl, rfl, rfl, rfl, rfl, rfl, rfl⟩ := hj
      rfl
    · cases hj

/-- **A host name that is hidden is missed**: the service is reached under it, and its address is
still said to be pending. -/
theorem hidden_hostname :
    Json.parse hidingText = .ok hidingService ∧ HasEntries hidingService [hidingEntry] ∧
      Reached hidingEntry "lb.example.com" ∧
      evaluate .service .externalIp hidingService = .ok ⟨false, "external address pending"⟩ ∧
      ¬Located Reached hidingService ⟨false, "external address pending"⟩ := by
  have hentries : HasEntries hidingService [hidingEntry] := by rfl
  have hreached : Reached hidingEntry "lb.example.com" := by
    refine .hostname ?_ ⟨by rfl, by decide⟩
    rintro other ⟨hip, hne⟩
    have hother : some (Json.text "") = some (.text other) := hip
    exact hne (Json.text.inj (Option.some.inj hother)).symm
  refine ⟨parse_hidingText, hentries, hreached, by rfl, fun h => ?_⟩
  have hdetail := h.first [] hidingEntry [] _ hentries nofun hreached
  exact absurd hdetail (by decide)

end Rollout.Status
