import SystemWeaved.Lib.CString
import SystemWeaved.Lib.Machine

/-!
# The mDNS client (`buffet/avahi_mdns_client.cc`)

`AvahiMdnsClient` publishes one service in an Avahi entry group, and remembers what it has
published: a publication of the same does nothing, and one with another TXT record only
updates that.

* `Avahi` is the calls on an entry group, with what Avahi documents of them. A call that Avahi
  refuses fails a `CHECK` and ends the process: the handler returns `none`.
* Strings are handed to Avahi as C strings.
-/

namespace SystemWeaved

/-- A service in an entry group. -/
structure AvahiService where
  name : String
  type : String
  port : UInt16
  txt : List String
  deriving DecidableEq, Repr

/-- `AvahiEntryGroup`: its services, and whether they have been committed. -/
structure AvahiEntryGroup where
  entries : List AvahiService := []
  committed : Bool := false
  deriving DecidableEq, Repr

namespace AvahiEntryGroup

variable (g : AvahiEntryGroup)

/-- The service of that name and type. -/
def hasService (name type : String) : Bool := g.entries.any fun e => e.name == name && e.type == type

/-- The services that are advertised. -/
def advertised : List AvahiService := if g.committed then g.entries else []

end AvahiEntryGroup

/-- The calls of Avahi on an entry group, and what they do if Avahi has no reason to refuse. -/
structure Avahi where
  /-- `avahi_entry_group_reset`. -/
  reset : AvahiEntryGroup → AvahiEntryGroup
  /-- `avahi_entry_group_is_empty`. -/
  isEmpty : AvahiEntryGroup → Bool
  /-- `avahi_entry_group_add_service_strlst`. -/
  addService : AvahiEntryGroup → AvahiService → Option AvahiEntryGroup
  /-- `avahi_entry_group_update_service_txt_strlst`. -/
  updateServiceTxt : AvahiEntryGroup → (name type : String) → (txt : List String) → Option AvahiEntryGroup
  /-- `avahi_entry_group_commit`. -/
  commit : AvahiEntryGroup → Option AvahiEntryGroup
  /-- Nothing is left of a group that is reset. -/
  reset_eq : ∀ group, reset group = {}
  isEmpty_iff : ∀ group, isEmpty group = true ↔ group.entries = []
  /-- A service is added once, and to a group that is not committed. -/
  addService_eq : ∀ group service, group.committed = false → group.hasService service.name service.type = false →
    addService group service = some { group with entries := group.entries ++ [service] }
  /-- A service that is there gets the new TXT list. -/
  updateServiceTxt_eq : ∀ group name type txt, group.hasService name type = true →
    updateServiceTxt group name type txt = some { group with
      entries := group.entries.map fun e => if e.name = name ∧ e.type = type then { e with txt } else e }
  commit_eq : ∀ group, group.committed = false → group.entries ≠ [] → commit group = some { group with committed := true }

/-- `AvahiClientState`. -/
inductive AvahiClientState
  | registering | running | collision | failure | connecting
  deriving DecidableEq, Repr

/-- `AvahiMdnsClient`. -/
structure AvahiMdnsClient where
  serviceName : String
  prevPort : UInt16 := 0
  prevServiceType : String := ""
  txtRecords : List String := []
  group : AvahiEntryGroup := {}
  deriving DecidableEq, Repr

namespace AvahiMdnsClient

variable (A : Avahi) (s : AvahiMdnsClient)

/-- `PublishService`. -/
def publishService (serviceType : String) (port : UInt16) (txt : List String) : Option AvahiMdnsClient :=
  if "_privet._tcp" ≠ serviceType then none
  else if s.prevPort = port ∧ s.prevServiceType = serviceType ∧ s.txtRecords = txt then some s
  else
    let txtList := txt.map cStr
    let s := { s with txtRecords := txt }
    if s.prevPort = port ∧ s.prevServiceType = serviceType then
      (A.updateServiceTxt s.group (cStr s.serviceName) (cStr serviceType) txtList).map fun group => { s with group }
    else
      let s := { s with prevPort := port, prevServiceType := serviceType }
      let group := A.reset s.group
      if !A.isEmpty group then none
      else
        (A.addService group ⟨cStr s.serviceName, cStr serviceType, port, txtList⟩).bind fun group =>
          (A.commit group).map fun group => { s with group }

/-- `StopPublishing`, whichever the type. -/
def stopPublishing (_serviceType : String) : AvahiMdnsClient :=
  { s with group := A.reset s.group, prevServiceType := "", prevPort := 0, txtRecords := [] }

/-- `RepublishService`. -/
def republishService : Option AvahiMdnsClient :=
  if s.prevServiceType = "" then some s
  else
    let serviceType := s.prevServiceType
    let port := s.prevPort
    let txt := s.txtRecords
    -- the strings have been moved out of the members
    let s := { s with prevServiceType := "", txtRecords := [] }
    (s.stopPublishing A serviceType).publishService A serviceType port txt

/-- `OnAvahiClientStateUpdate`. -/
def onAvahiClientStateUpdate (state : AvahiClientState) : Option AvahiMdnsClient :=
  if state = .running then s.republishService A else some s

/-- What can happen to an `AvahiMdnsClient`, one at a time. -/
inductive Event
  | publishService (serviceType : String) (port : UInt16) (txt : List String)
  | stopPublishing (serviceType : String)
  | stateUpdate (state : AvahiClientState)
  /-- Avahi has lost the group and is running again. -/
  | restarted
  deriving DecidableEq, Repr

/-- One event. -/
def next : Event → Option AvahiMdnsClient
  | .publishService serviceType port txt => s.publishService A serviceType port txt
  | .stopPublishing serviceType => some (s.stopPublishing A serviceType)
  | .stateUpdate state => s.onAvahiClientStateUpdate A state
  | .restarted => onAvahiClientStateUpdate A { s with group := {} } .running

/-- All runs of an `AvahiMdnsClient`. -/
def machine (A : Avahi) : Machine AvahiMdnsClient Event where
  start s := ∃ serviceName, s = { serviceName }
  next s e := s.next A e

end AvahiMdnsClient

end SystemWeaved
