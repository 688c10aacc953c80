import Ipv4Router.ConfigurationError
import Ipv4Router.MacAddress

/-!
# Interfaces

A router owns a fixed list of Ethernet interfaces, known to the link by distinct
names.  An interface is found by its name or by the IPv4 address it owns; where
several own one address, the first is found.
-/

namespace Ipv4Router

/-- An Ethernet interface of a router. -/
structure Interface where
  /-- The name by which the link knows the interface. -/
  name : String
  mac : MacAddress
  address : Ipv4Address
  deriving DecidableEq

/-- The first name of a list that occurs in it before, or among the names seen. -/
def firstRepeated? (seen : List String) : List String → Option String
  | [] => none
  | name :: rest => if name ∈ seen then some name else firstRepeated? (name :: seen) rest

theorem nodup_of_firstRepeated?_eq_none {seen names : List String}
    (noneRepeated : firstRepeated? seen names = none) :
    names.Nodup ∧ ∀ name ∈ names, name ∉ seen := by
  induction names generalizing seen with
  | nil => simp
  | cons name rest ih =>
      simp only [firstRepeated?] at noneRepeated
      split at noneRepeated
      · cases noneRepeated
      next fresh =>
        obtain ⟨restNodup, restFresh⟩ := ih noneRepeated
        refine ⟨List.nodup_cons.mpr ⟨fun member => ?_, restNodup⟩, fun other member => ?_⟩
        · exact restFresh name member List.mem_cons_self
        · rcases List.mem_cons.mp member with rfl | later
          · exact fresh
          · exact fun seenBefore => restFresh other later (List.mem_cons_of_mem _ seenBefore)

/-- The interfaces of a router, which have distinct names. -/
structure Interfaces where
  all : List Interface
  distinctNames : (all.map Interface.name).Nodup

namespace Interfaces

/-- The interfaces of a list, refused if a name occurs twice. -/
def ofList (all : List Interface) : Except ConfigurationError Interfaces :=
  match repeated : firstRepeated? [] (all.map Interface.name) with
  | some name => .error (.duplicateInterface name)
  | none => .ok ⟨all, (nodup_of_firstRepeated?_eq_none repeated).1⟩

def byName? (interfaces : Interfaces) (name : String) : Option Interface :=
  interfaces.all.find? (fun interface => interface.name = name)

/-- The interface that owns an IPv4 address. -/
def byAddress? (interfaces : Interfaces) (address : Ipv4Address) : Option Interface :=
  interfaces.all.find? (fun interface => interface.address = address)

end Interfaces

end Ipv4Router
