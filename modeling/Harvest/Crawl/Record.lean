import Harvest.Crawl.Report
import Harvest.Document

/-!
# Records of a crawl as documents

How the record of an entry and the summary of a pass are written down.
-/

namespace Harvest

open Document

/-- Writes the record of an entry. -/
def Activity.toDocument (a : Activity) : Document :=
  .table [("timestamp", .text a.timestamp.iso), ("id", .text a.id), ("outcome", .text a.kind.label),
    ("bytes", .nat a.bytes), ("error", ofOption .text a.error)]

/-- Writes an entry that is left to a later pass. -/
def Deferral.toDocument (d : Deferral) : Document :=
  .table [("id", .text d.id), ("message", .text d.message),
    ("retry_after", .text d.window.earliest.iso), ("retry_until", .text d.window.latest.iso)]

/-- Writes tokens by identifier. -/
def VersionMap.toDocument (versions : VersionMap) : Document :=
  .table (versions.toList.map (fun entry => (entry.1, .text entry.2)))

/-- Reads tokens by identifier; of two for one identifier the last counts. -/
def VersionMap.ofDocument? : Document → Option VersionMap
  | .table entries => entries.foldlM (fun versions e => e.2.text?.map (versions.insert e.1)) ∅
  | _ => none

/-- Writes the summary of a pass that took so many seconds. -/
def Report.toDocument (r : Report) (seconds : String) : Document :=
  .table [("ingested", .nat r.ingested), ("deleted", .nat r.deleted), ("skipped", .nat r.skipped),
    ("unchanged", .nat r.unchanged), ("bytes", .nat r.bytes),
    ("deferred", ofList Deferral.toDocument r.deferred), ("versions", r.versions.toDocument),
    ("duration", .real seconds)]

end Harvest
