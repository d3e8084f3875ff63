import Seedkeeper.Torrent.Basic
import Seedkeeper.Url.Basic

/-!
The site a torrent belongs to: the host of its tracker's announce address.

A text without a colon is no address, and an address without `//` has no host unless its scheme always has
one (`trackerHost?_of_no_colon`, `trackerHost?_of_no_authority`).
-/

namespace Seedkeeper.Torrent

/-- The tracker's host in lower case; none if the address cannot be read or has no host. -/
def trackerHost? (t : Torrent) : Option String :=
  ((Url.ofText? t.tracker).bind (·.host)).map Text.lowercase

theorem trackerHost?_of_no_colon {t : Torrent} (h : ':' ∉ t.tracker.toList) :
    t.trackerHost? = none := by
  have hscheme : Url.cutScheme (Url.cleaned t.tracker.toList) = none :=
    Url.cutScheme_of_notMem fun hmem => h (Url.mem_of_mem_cleaned hmem)
  simp only [trackerHost?, Url.ofText?, hscheme, Option.bind_eq_bind, Option.bind_none, Option.map_none]

theorem trackerHost?_of_no_authority {t : Torrent} {scheme rest : List Char}
    (hcut : Url.cutScheme (Url.cleaned t.tracker.toList) = some (scheme, rest))
    (hkind : Url.kindOf scheme = .other) (hrest : ¬ "//".toList <+: rest) : t.trackerHost? = none := by
  have hurl : Url.ofText? t.tracker = some (Url.build .other scheme none none rest) := by
    simp only [Url.ofText?, hcut, Option.bind_eq_bind, Option.bind_some, hkind]
    split
    · rename_i cs
      exact absurd (List.prefix_append _ cs) hrest
    · rfl
  rw [trackerHost?, hurl]
  rfl

example : trackerHost? { sample "a" "A" .seeding with tracker := "dht:somewhere" } = none := by
  decide +kernel

end Seedkeeper.Torrent
