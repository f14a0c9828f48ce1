import Mathlib.Data.List.Basic
import ListingFilter.Http.Endpoint
/-!
# Paths of resource types

A path is cut at its slashes, so the name of a resource type leads to its own endpoints, whatever
its other characters are.
-/

namespace ListingFilter

namespace Text

theorem splitOn_of_notMem {c : Char} {cs : List Char} (h : c ∉ cs) : splitOn c cs = [cs] := by
  induction cs with
  | nil => rfl
  | cons d rest ih =>
    obtain ⟨hne, hrest⟩ := not_or.1 (List.mem_cons.not.1 h)
    rw [splitOn, if_neg (Ne.symm hne), ih hrest]

theorem splitOn_append {c : Char} {cs : List Char} (h : c ∉ cs) (rest : List Char) :
    splitOn c (cs ++ c :: rest) = cs :: splitOn c rest := by
  induction cs with
  | nil => rw [List.nil_append, splitOn, if_pos rfl]
  | cons d front ih =>
    obtain ⟨hne, hfront⟩ := not_or.1 (List.mem_cons.not.1 h)
    rw [List.cons_append, splitOn, if_neg (Ne.symm hne), ih hfront]

end Text

namespace Http

variable {name : String}

theorem splitOn_resources (rest : List Char) :
    Text.splitOn '/' ("/api/resources/".toList ++ rest) =
      [] :: "api".toList :: "resources".toList :: Text.splitOn '/' rest := by
  have hpath : "/api/resources/".toList ++ rest =
      [] ++ '/' :: ("api".toList ++ '/' :: ("resources".toList ++ '/' :: rest)) := by
    simp
  rw [hpath, Text.splitOn_append (by decide), Text.splitOn_append (by decide),
    Text.splitOn_append (by decide)]

theorem route_listing (hname : name ≠ "") (hslash : '/' ∉ name.toList) :
    route "GET" ("/api/resources/" ++ name) = .to (.listing name) := by
  have hendpoint : endpoint? ("/api/resources/" ++ name) = some (.listing name) := by
    rw [endpoint?, String.toList_append, splitOn_resources, Text.splitOn_of_notMem hslash]
    simp [Endpoint.ofParts?, hname]
  rw [route, hendpoint]
  rfl

theorem route_counting (hname : name ≠ "") (hslash : '/' ∉ name.toList) :
    route "GET" ("/api/resources/" ++ name ++ "/count") = .to (.counting name) := by
  have hcount : "/count".toList = '/' :: "count".toList := by simp
  have hendpoint : endpoint? ("/api/resources/" ++ name ++ "/count") = some (.counting name) := by
    rw [endpoint?, String.toList_append, String.toList_append, List.append_assoc,
      splitOn_resources, hcount, Text.splitOn_append hslash, Text.splitOn_of_notMem (by decide)]
    simp [Endpoint.ofParts?, hname]
  rw [route, hendpoint]
  rfl

end Http

end ListingFilter
