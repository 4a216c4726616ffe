import Harvest.Document

/-!
# Tables in the making

A TOML document states its tables piece by piece: by headers, by keys with dots, and by naming a table
on the way to another. How a table came about decides what may still be added to it. Values, tables in
braces among them, are complete when they are read.
-/

namespace Harvest.Toml

/-- How a table came about. -/
inductive Origin where
  /-- It was named on the way to the table of a header. -/
  | implied
  /-- It was named on the way in a key with dots. -/
  | dotted
  /-- It has a header of its own, or is the document itself. -/
  | stated
deriving DecidableEq, Repr

/-- What a key stands for so far. -/
inductive Draft where
  | value (d : Document)
  | table (origin : Origin) (entries : List (String × Draft))
  /-- The tables of a list, the latest first. -/
  | tables (items : List (List (String × Draft)))
deriving Inhabited

/-- The entries of a table so far. -/
abbrev Entries := List (String × Draft)

namespace Entries

/-- What a key stands for. -/
def get? (es : Entries) (key : String) : Option Draft := es.lookup key

/-- Gives a key another meaning; a new key comes last. -/
def set (es : Entries) (key : String) (d : Draft) : Entries :=
  if es.any (fun e => e.1 == key) then es.map (fun e => if e.1 == key then (key, d) else e)
  else es ++ [(key, d)]

/-- Changes the table that a path leads to. Tables that are missing are made. The last table of a list
stands for the list. A key with dots leads through no table that has a header of its own, and nothing
leads through a value. -/
def descend (dotted : Bool) (change : Origin → Entries → Option Entries) :
    Origin → List String → Entries → Option Entries
  | origin, [], es => change origin es
  | _, key :: rest, es =>
    match es.get? key with
    | none =>
      let origin := if dotted then .dotted else .implied
      (descend dotted change origin rest []).map fun inner => es.set key (.table origin inner)
    | some (.table origin inner) =>
      if dotted && origin == .stated then none
      else (descend dotted change origin rest inner).map fun inner => es.set key (.table origin inner)
    | some (.tables (latest :: earlier)) =>
      (descend dotted change .stated rest latest).map fun inner =>
        es.set key (.tables (inner :: earlier))
    | some _ => none

/-- Adds an entry under a key that is not used yet. -/
def add (key : String) (d : Document) (es : Entries) : Option Entries :=
  if (es.get? key).isSome then none else some (es ++ [(key, .value d)])

/-- Adds an entry by a path and a key. A path adds only to tables that came about in the same way. -/
def assign (path : List String) (key : String) (d : Document) (es : Entries) : Option Entries :=
  descend true
    (fun origin inner => if !path.isEmpty && origin != .dotted then none else add key d inner)
    .stated path es

/-- Fills the table of a header, which may so far only be implied. -/
def openTable (path : List String) (key : String) (fill : Entries → Option Entries) (es : Entries) :
    Option Entries :=
  descend false
    (fun _ inner =>
      match inner.get? key with
      | none => (fill []).map fun own => inner.set key (.table .stated own)
      | some (.table .implied own) => (fill own).map fun own => inner.set key (.table .stated own)
      | some _ => none)
    .stated path es

/-- Fills a new table at the end of a list. -/
def openItem (path : List String) (key : String) (fill : Entries → Option Entries) (es : Entries) :
    Option Entries :=
  descend false
    (fun _ inner =>
      match inner.get? key with
      | none => (fill []).map fun own => inner.set key (.tables [own])
      | some (.tables items) => (fill []).map fun own => inner.set key (.tables (own :: items))
      | some _ => none)
    .stated path es

end Entries

mutual

/-- What a key stands for in the end. -/
def Draft.toDocument : Draft → Document
  | .value d => d
  | .table _ entries => .table (entriesToDocument entries)
  | .tables items => .list (itemsToDocument items).reverse

/-- The entries of a table in the end. -/
def entriesToDocument : List (String × Draft) → List (String × Document)
  | [] => []
  | (key, d) :: rest => (key, d.toDocument) :: entriesToDocument rest

/-- The tables of a list, in the order in which they are kept. -/
def itemsToDocument : List (List (String × Draft)) → List Document
  | [] => []
  | entries :: rest => .table (entriesToDocument entries) :: itemsToDocument rest

end

end Harvest.Toml
