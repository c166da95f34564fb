import Tabletop.Text.CodePoint

/-!
# Help

The texts that explain the chat commands: a short guide and a full one (`guide`), and how each
command that takes arguments is used (`rollUsage`, `describeUsage`).
-/

namespace Tabletop

/-- Lines with line feeds between them. -/
def guideLines (lines : List String) : Text :=
  Text.join [.char '\n'] (lines.map Text.ofString)

/-- The commands. -/
def shortGuide : Text := guideLines [
    "🎲 Dice help",
    "  !roll <expression>                - roll dice (e.g. !roll 3d6+2)",
    "  !rolld <expression> <description> - roll with a description",
    "  !rollhelp -d                      - detailed help"]

/-- The commands, the notation and examples. -/
def fullGuide : Text := guideLines [
    "🎲 Dice help",
    "",
    "Commands:",
    "  !roll <expression>                - roll dice (e.g. !roll 3d6+2)",
    "  !rolld <expression> <description> - roll with a description",
    "  !rollhelp [-d]                    - this help",
    "",
    "Expressions:",
    "  d20                - one 20-sided die",
    "  3d6                - three 6-sided dice",
    "  2d10+5             - two 10-sided dice plus 5",
    "  4d6kh1 / 4d6kl1    - keep the highest / lowest die",
    "  4d6dh1 / 4d6dl1    - drop the highest / lowest die",
    "  d20!               - exploding die: roll again on the maximum",
    "  d10r2              - reroll once on 2 or less",
    "  d10rr2             - reroll until above 2",
    "  3d6+2d4-1          - combine terms",
    "",
    "Operators (applied left to right, no precedence):",
    "  +  addition",
    "  -  subtraction",
    "  *  multiplication",
    "  /  division (rounded down)",
    "",
    "Examples:",
    "  !roll d20          - 🎲 d20 = [15] = 15",
    "  !roll 3d6+2        - 🎲 3d6+2 = [4,5,3] + 2 = 14",
    "  !roll 4d6kh1       - 🎲 4d6kh1 = [4,5,3,2]→[5] = 5",
    "  !rolld 2d6 Damage  - Damage",
    "                       🎲 2d6 = [4,3] = 7"]

/-- The guide in one of its two lengths. -/
def guide (detailed : Bool) : Text := if detailed then fullGuide else shortGuide

/-- How dice are rolled. -/
def rollUsage : Text := guideLines [
    "Usage: !roll <expression>",
    "Examples: !roll d20, !roll 3d6+2, !roll 4d6kh3, !roll d10r1",
    "Use !rollhelp for more"]

/-- How dice are rolled with a description. -/
def describeUsage : Text := guideLines [
    "Usage: !rolld <expression> <description>",
    "Example: !rolld 2d6 Attack damage"]

end Tabletop
