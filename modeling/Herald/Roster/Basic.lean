import Herald.Text.Shown
import Herald.Trace

/-!
# Rosters

A roster holds handles in the order of their registration, none of them twice. Every registration
is stamped with a serial number that no other registration of the roster has ever had, so a handle
that is removed and registered again is a new entry. A walk over a roster relies on that: it notes
the serials that it finds at the start and asks of each, when its turn comes, whether it is still
there (`isLive`, `turn`).

Each operation that may change a roster answers with a `Notice` of what it did.
-/

namespace Herald

/-- A registered handle, under the serial number of its registration. -/
structure Entry (α : Type) where
  serial : Nat
  handle : α
  deriving DecidableEq, Repr

/-- Registered handles in the order of registration, and the serial number of the next one. -/
structure Roster (α : Type) where
  entries : List (Entry α) := []
  /-- The counter is kept in a machine word of 64 bits, and would overflow there. That takes 2^64
  accepted registrations, and the model stands for the runs that have fewer. -/
  nextSerial : Nat := 0
  deriving DecidableEq, Repr

/-- What is next in a walk over a roster: the turn of an entry, after which others are pending, or
the end. -/
inductive Turn (α : Type) where
  | done
  /-- The entry still stands and is visited. -/
  | visit (entry : Entry α) (pending : List (Entry α))
  /-- The entry has been taken out and is left out. -/
  | skip (entry : Entry α) (pending : List (Entry α))

/-- What an operation did to a roster. `observers` counts the entries after a registration or a
removal, and before a clearing. -/
inductive Notice (α : Type) where
  | added (handle : α) (serial observers : Nat)
  | addIgnored (handle : α)
  | removed (handle : α) (serial observers : Nat)
  | removeIgnored (handle : α)
  | cleared (observers : Nat)
  deriving DecidableEq, Repr

/-- The log record of a notice. -/
def Notice.record {α : Type} : Notice α → Trace.Record
  | .added _ serial observers =>
    ⟨.debug, "observer added", [("serial", .number serial), ("observers", .number observers)]⟩
  | .addIgnored _ => ⟨.debug, "observer already registered; add ignored", []⟩
  | .removed _ serial observers =>
    ⟨.debug, "observer removed", [("serial", .number serial), ("observers", .number observers)]⟩
  | .removeIgnored _ => ⟨.debug, "observer not registered; remove ignored", []⟩
  | .cleared observers => ⟨.debug, "observer list cleared", [("observers", .number observers)]⟩

/-- The log record of an entry that was removed before its turn in a walk. -/
def Entry.skipRecord {α : Type} (entry : Entry α) : Trace.Record :=
  ⟨.trace, "observer removed before its turn; skipped", [("serial", .number entry.serial)]⟩

namespace Roster

variable {α : Type}

/-- The roster without entries that has never had one. -/
def empty : Roster α :=
  {}

/-- The registered handles, in order. -/
def handles (roster : Roster α) : List α :=
  roster.entries.map Entry.handle

/-- The number of registered handles. -/
def size (roster : Roster α) : Nat :=
  roster.entries.length

/-- Whether no handle is registered. -/
def isEmpty (roster : Roster α) : Bool :=
  roster.entries.isEmpty

/-- Whether the registration with a given serial number still stands. -/
def isLive (roster : Roster α) (serial : Nat) : Bool :=
  roster.entries.any fun entry => entry.serial == serial

/-- The next turn of a walk over a roster, where the turns of some entries have not come. -/
def turn (roster : Roster α) : List (Entry α) → Turn α
  | [] => .done
  | entry :: pending =>
    if roster.isLive entry.serial then .visit entry pending else .skip entry pending

/-- Takes every entry out. The numbering of registrations goes on. -/
def clear (roster : Roster α) : Roster α × Notice α :=
  ({ roster with entries := [] }, .cleared roster.size)

/-- What a developer is shown of a roster: its size. -/
def shown (roster : Roster α) : Text.Shown :=
  .record "ObserverList" [("len", .ofNat roster.size)] true

variable [DecidableEq α]

/-- Whether a handle is registered. -/
def contains (roster : Roster α) (handle : α) : Bool :=
  roster.entries.any fun entry => decide (entry.handle = handle)

/-- Registers a handle at the end. A handle that is registered already keeps its place. -/
def add (roster : Roster α) (handle : α) : Roster α × Notice α :=
  if roster.contains handle then
    (roster, .addIgnored handle)
  else
    ({ entries := roster.entries ++ [⟨roster.nextSerial, handle⟩]
       nextSerial := roster.nextSerial + 1 },
      .added handle roster.nextSerial (roster.size + 1))

/-- Takes the entry of a handle out, if it has one. -/
def remove (roster : Roster α) (handle : α) : Roster α × Notice α :=
  match roster.entries.find? fun entry => decide (entry.handle = handle) with
  | none => (roster, .removeIgnored handle)
  | some entry =>
    let rest := roster.entries.eraseP fun entry => decide (entry.handle = handle)
    ({ roster with entries := rest }, .removed handle entry.serial rest.length)

end Roster

end Herald
