import Routing.Unicode.AgeTable
import Routing.Unicode.CharSet

/-!
# Ages

* `ages`: the characters that a version of the standard has, those of earlier versions included
-/
namespace Routing.Unicode

open CharSet

/-- The characters that each version added, under the names of the version, the oldest first. -/
def additions : List (List String × List Span) :=
   [(["1.1", "v11"], AgeTable.version1_1),
    (["2.0", "v20"], AgeTable.version2_0),
    (["2.1", "v21"], AgeTable.version2_1),
    (["3.0", "v30"], AgeTable.version3_0),
    (["3.1", "v31"], AgeTable.version3_1),
    (["3.2", "v32"], AgeTable.version3_2),
    (["4.0", "v40"], AgeTable.version4_0),
    (["4.1", "v41"], AgeTable.version4_1),
    (["5.0", "v50"], AgeTable.version5_0),
    (["5.1", "v51"], AgeTable.version5_1),
    (["5.2", "v52"], AgeTable.version5_2),
    (["6.0", "v60"], AgeTable.version6_0),
    (["6.1", "v61"], AgeTable.version6_1),
    (["6.2", "v62"], AgeTable.version6_2),
    (["6.3", "v63"], AgeTable.version6_3),
    (["7.0", "v70"], AgeTable.version7_0),
    (["8.0", "v80"], AgeTable.version8_0),
    (["9.0", "v90"], AgeTable.version9_0),
    (["10.0", "v100"], AgeTable.version10_0),
    (["11.0", "v110"], AgeTable.version11_0),
    (["12.0", "v120"], AgeTable.version12_0),
    (["12.1", "v121"], AgeTable.version12_1),
    (["13.0", "v130"], AgeTable.version13_0),
    (["14.0", "v140"], AgeTable.version14_0),
    (["15.0", "v150"], AgeTable.version15_0),
    (["15.1", "v151"], AgeTable.version15_1),
    (["16.0", "v160"], AgeTable.version16_0)]

def agesFrom (earlier : CharSet) : List (List String × List Span) → List (List String × CharSet)
  | [] => []
  | (names, added) :: rest =>
    let all := union earlier (spans added)
    (names, all) :: agesFrom all rest

/-- The characters of each version, those of earlier versions included. -/
def ages : List (List String × CharSet) :=
  agesFrom empty additions

end Routing.Unicode
