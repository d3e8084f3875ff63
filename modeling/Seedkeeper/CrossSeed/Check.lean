import Seedkeeper.CrossSeed.Verdict
import Seedkeeper.Client.Basic

/-!
The cross-seed check of a candidate's files against a torrent on a client.
-/

namespace Seedkeeper.CrossSeed

open Client (Backend ContentFile Run)

/-- A client's file as an entry. -/
def Entry.ofContent (f : ContentFile) : Entry := ⟨f.path, f.size⟩

/-- The verdict on two lists in any order. -/
def verdict (held : List ContentFile) (candidate : List Entry) : Verdict :=
  compare ((sortByPath ContentFile.path held).map Entry.ofContent)
    (sortByPath Entry.path candidate)

/-- The verdict on a candidate for a torrent of a client. -/
def check {σ : Type} [Backend σ] (infoHash : String) (candidate : List Entry) : Run σ Verdict := do
  return verdict (← Backend.contents infoHash) candidate

end Seedkeeper.CrossSeed
