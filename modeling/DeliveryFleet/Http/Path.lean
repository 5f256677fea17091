/-!
# Clean paths

A path is served in its clean form (`Path.clean`): `.` and empty segments dropped, each `..`
taking back the segment before it, rooted at `/`, and keeping a final `/`. The empty path is
`/`. Paths are bytes, so that a segment need not be well-formed text.
-/

namespace DeliveryFleet.Path

/-- The segments of a path after `.`, empty segments and `..` have been resolved. -/
def resolve (segments : List (List UInt8)) : List (List UInt8) :=
  segments.foldl (fun kept s =>
    if s.isEmpty || s == [46] then kept
    else if s == [46, 46] then kept.dropLast
    else kept ++ [s]) []

/-- The clean form of a path. -/
def clean (p : List UInt8) : List UInt8 :=
  if p.isEmpty then [47]
  else
    let rooted := if p.head? == some 47 then p else 47 :: p
    let np : List UInt8 := 47 :: List.intercalate [47] (resolve (rooted.splitOn 47))
    if rooted.getLast? == some 47 && np != [47] then np ++ [47] else np

end DeliveryFleet.Path
