/-! Lists of entries under keys. -/
namespace FormScript

def keepLast : List (String × α) → List (String × α)
  | [] => []
  | (key, value) :: rest =>
    if rest.any (·.1 = key) then keepLast rest else (key, value) :: keepLast rest

end FormScript
