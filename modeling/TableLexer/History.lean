import TableLexer.Json.Reader
import TableLexer.Json.Writer
import TableLexer.Language
import TableLexer.Time.Reader

/-!
# Scan histories

A bounded log of scanned sources with a cursor on the entry that was recorded or restored
last.  Blank sources and repeats of the latest source are not recorded, and a full history
drops its oldest entries.  A saved history is a JSON record; nothing in it is checked
against its capacity.
-/

namespace TableLexer

/-- A scanned source. -/
structure HistoryEntry where
  source : String
  language : Language
  timestamp : Timestamp
deriving DecidableEq, Repr

namespace HistoryEntry

/-- The number of characters that a listing shows of a source. -/
def previewLength : Nat := 30

/-- The beginning of the source, for listings. -/
def preview (e : HistoryEntry) : String :=
  String.ofList (e.source.toList.take previewLength) ++ "..."

/-- The entry in JSON. -/
def toJson (e : HistoryEntry) : Json :=
  .ofFields
    [("source", .ofText e.source), ("language", e.language.toJson),
     ("timestamp", .ofText e.timestamp.formatExact)]

/-- The entry that a JSON value holds. -/
def ofJson? (v : Json) : Option HistoryEntry := do
  match ← v.toRecord? ["source", "language", "timestamp"] with
  | [some source, some language, some timestamp] =>
    let source ← source.toText?
    let language ← Language.ofJson? language
    let timestamp ← timestamp.toText?
    let timestamp ← Timestamp.parse? timestamp
    return ⟨source, language, timestamp⟩
  | _ => none

end HistoryEntry

/-- A bounded log of scanned sources, the oldest one first. -/
structure History where
  entries : List HistoryEntry
  capacity : Nat
  /-- The index of the entry that was recorded or restored last. -/
  current : Option Nat
deriving DecidableEq, Repr

namespace History

/-- The capacity of a history for which none is given. -/
def defaultCapacity : Nat := 20

/-- The largest number that a saved history may hold. -/
def maxSaved : Nat := 18446744073709551615

/-- An empty history; its capacity is at least one. -/
def withCapacity (capacity : Nat) : History :=
  ⟨[], max capacity 1, none⟩

/-- An empty history of the default capacity. -/
def new : History :=
  withCapacity defaultCapacity

/-- The entry recorded last. -/
def latest? (h : History) : Option HistoryEntry :=
  h.entries.getLast?

/-- The source is neither blank nor the one recorded last. -/
def accepts (h : History) (source : String) : Bool :=
  !Text.allBlank source.toList && h.latest?.all fun e => e.source != source

/-- What is left when the oldest entries have gone, one after the other, until one of the
places is free. -/
def makeRoom (places : Nat) : List HistoryEntry → List HistoryEntry
  | [] => []
  | e :: rest => if places ≤ rest.length + 1 then makeRoom places rest else e :: rest

/-- The entries that stay when one more is recorded; a saved capacity may be 0. -/
def kept (h : History) : List HistoryEntry :=
  makeRoom (max h.capacity 1) h.entries

/-- The history after a scan, and whether the scan was recorded. -/
def record (h : History) (e : HistoryEntry) : History × Bool :=
  if h.accepts e.source then
    ({ h with entries := h.kept ++ [e], current := some h.kept.length }, true)
  else
    (h, false)

/-- The entry at an index. -/
def get? (h : History) (index : Nat) : Option HistoryEntry :=
  h.entries[index]?

/-- The history with the cursor on an entry, and that entry; an index without entry does
nothing. -/
def restore (h : History) (index : Nat) : History × Option HistoryEntry :=
  match h.get? index with
  | some e => ({ h with current := some index }, some e)
  | none => (h, none)

/-- The history without its entries. -/
def clear (h : History) : History :=
  { h with entries := [], current := none }

/-- The history in JSON. -/
def toJson (h : History) : Json :=
  .ofFields
    [("entries", .array (h.entries.map HistoryEntry.toJson)),
     ("capacity", .ofNat h.capacity), ("current", .ofOption .ofNat h.current)]

/-- The history as compact JSON text. -/
def save (h : History) : String :=
  h.toJson.compact

/-- The cursor that a JSON value holds; it may be absent or `null`. -/
def cursorOf? : Option Json → Option (Option Nat)
  | none => some none
  | some .null => some none
  | some v => (v.toNatUpTo? maxSaved).map some

/-- The history that a JSON value holds. -/
def ofJson? (v : Json) : Option History := do
  match ← v.toRecord? ["entries", "capacity", "current"] with
  | [some entries, some capacity, current] =>
    let entries ← entries.toElements?
    let entries ← entries.mapM HistoryEntry.ofJson?
    let capacity ← capacity.toNatUpTo? maxSaved
    let current ← cursorOf? current
    return ⟨entries, capacity, current⟩
  | _ => none

/-- The history that a JSON text holds. -/
def load? (s : String) : Option History :=
  (Json.read? s).bind ofJson?

/-- The text filled up with blanks in front. -/
def alignRight (width : Nat) (s : String) : String :=
  String.ofList (List.replicate (width - s.length) ' ') ++ s

/-- The text filled up with blanks behind. -/
def alignLeft (width : Nat) (s : String) : String :=
  s ++ String.ofList (List.replicate (width - s.length) ' ')

/-- One line of a listing: a star at the cursor, the index, the language, the time and a
preview. -/
def listLine (h : History) (index : Nat) (e : HistoryEntry) : String :=
  (if h.current = some index then "*" else " ") ++ " " ++
    alignRight 2 (toString index) ++ "  " ++ alignLeft 10 e.language.displayName ++ "  " ++
      e.timestamp.formatMillis ++ "  " ++
    e.preview.map fun c => if c = '\n' then ' ' else c

/-- The lines of a listing. -/
def listing (h : History) : List String :=
  ("History (" ++ toString h.entries.length ++ " of " ++ toString h.capacity ++ "):") ::
    h.entries.mapIdx h.listLine

end History
end TableLexer
