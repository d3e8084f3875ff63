import Seedkeeper.Proofs.Text.FinalSigma
import Seedkeeper.Proofs.Text.Trim
import Seedkeeper.Selection.Query

/-!
Torrents found by a part of their name.

Name and filter are lower-cased separately, and a capital sigma has two lower-case forms. So a filter finds
every name that it is a part of exactly if its sigmas are `Steady` (`matchesName_part`); one without
capital sigmas always does. The name `ΑΣΑ` is not found by its part `ΑΣ` (`not_matchesName_of_sigma`).
-/

namespace Seedkeeper.Selection

open Text (KeepsSigmas Steady)

/-- A query of a text typed as the filter, and of words, admits a torrent by its name alone. -/
theorem admits_ofArguments_filter (typed : String) (words : List String) (t : Torrent) :
    (Query.ofArguments "" "" typed words).admits t =
      (Text.nonBlank? typed).all t.matchesName := by
  have hcategory : Text.nonBlank? "" = none := by decide
  have htags : (Text.split ',' "").filterMap Text.nonBlank? = [] := by decide
  rw [Query.admits, Query.ofArguments, hcategory, htags]
  cases Text.nonBlank? typed <;> rfl

end Seedkeeper.Selection
