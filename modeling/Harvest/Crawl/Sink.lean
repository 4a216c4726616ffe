import Harvest.Crawl.Outcome
import Harvest.Store

/-!
# Receivers and scratch copies

The receiver of a crawl takes over content and is told about deletions and skips. Content that has to
be looked at before it is handed over is kept in a scratch copy meanwhile.
-/

namespace Harvest

/-- The receiver of a crawl. -/
structure Sink (m : Type → Type) where
  /-- Hands over the content of an entry; answers how many bytes were taken. -/
  ingest : Delivery → Content → Action m Nat
  delete : String → Action m Unit
  skip : String → SkipReason → Action m Unit
  record : Activity → m Unit

/-- A place for scratch copies, each known by its path. -/
structure Scratch (m : Type → Type) where
  /-- Where the copies are kept. -/
  location : String
  /-- Makes an empty copy. -/
  create : Action m String
  /-- Empties a copy. -/
  clear : String → Action m Unit
  append : String → ByteArray → Action m Unit
  read : String → Action m Content
  discard : String → m Unit

namespace Scratch

variable {m : Type → Type} [Monad m]

/-- Appends pieces in order. -/
def appendAll (s : Scratch m) (path : String) : List ByteArray → Action m Unit
  | [] => pure ()
  | piece :: rest => do
    s.append path piece
    s.appendAll path rest

/-- Makes a copy hold the given content and nothing else; fails where reading the content ended. -/
def fill (s : Scratch m) (path : String) (content : Content) : Action m Unit := do
  s.clear path
  s.appendAll path content.pieces
  match content.failure with
  | some f => throw f
  | none => pure ()

end Scratch

/-- Reads a scratch copy and finds out about its content. -/
abbrev Fingerprinter (m : Type → Type) := String → Action m Fingerprint

/-- The fingerprinter that reads the copy and takes the fingerprint of what it holds. -/
def Scratch.fingerprinter {m : Type → Type} [Monad m] (s : Scratch m) : Fingerprinter m :=
  fun path => do
    let content ← s.read path
    match content.failure with
    | some f => throw f
    | none => pure (.ofPieces content.pieces)

end Harvest
