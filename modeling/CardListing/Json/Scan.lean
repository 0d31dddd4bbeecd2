import CardListing.Json.Token

/-!
Scanning a text into tokens. The scan passes over gaps and takes the token at the front of
what is left, until the text ends or no token begins; in the second case the last token is a
stray character.
-/

namespace CardListing

namespace Json

namespace Token

theorem length_lt_of_read? {text rest : Text} {token : Token}
    (h : read? text = some (token, rest))
    : rest.length < text.length := by
  cases text with
  | nil => cases h
  | cons c text =>
      rw [read?] at h
      split at h
      · obtain ⟨_, hfound, hrest⟩ := Option.map_eq_some_iff.mp h
        obtain ⟨-, rfl⟩ := Prod.mk.inj hrest
        exact Number.length_lt_of_read? hfound
      · split at h
        · obtain ⟨_, hfound, hrest⟩ := Option.map_eq_some_iff.mp h
          obtain ⟨-, rfl⟩ := Prod.mk.inj hrest
          exact Nat.lt_succ_of_lt (length_lt_of_readUnits? hfound)
        · split at h
          · obtain ⟨-, rfl⟩ := Prod.mk.inj (Option.some.inj h)
            exact Nat.lt_succ_self _
          · obtain ⟨_, hfound, hrest⟩ := Option.map_eq_some_iff.mp h
            obtain ⟨-, rfl⟩ := Prod.mk.inj hrest
            exact Scalar.length_lt_of_readWord? hfound

def scan : Text → List Token
  | [] => []
  | c :: rest =>
    if isGap c then scan rest
    else
      match _hread : read? (c :: rest) with
      | some (token, later) => token :: scan later
      | none => [stray c]
termination_by text => text.length
decreasing_by
  · exact Nat.lt_succ_self _
  · exact length_lt_of_read? _hread

end Token

end Json

end CardListing
