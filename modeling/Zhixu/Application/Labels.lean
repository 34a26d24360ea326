import Zhixu.Domain.Timestamp

/-!
# Labels and cards

The presentation shared by the repositories and the schedulers: one row of a
card (`field`), the card itself, and the lines about moments and gaps.
-/

namespace Zhixu

/-- `field`: a bold label, the value in a code span without its backticks. -/
def field (label value : String) : String :=
  "**" ++ label ++ "：** `" ++ String.ofList (value.toList.filter (· ≠ '`')) ++ "`"

/-- `card`. -/
def card (title : String) (fields : List (String × String)) (note : String := "") : String :=
  let lines := ("# " ++ title) :: fields.flatMap fun f => ["", field f.1 f.2]
  joinLines (if note = "" then lines else lines ++ ["", "> " ++ note])

/-- `agenda_mark`: the clock face of the hour, or of half past it. -/
def agendaMark (w : Int) : String :=
  let hour := if Wall.hour w % 12 = 0 then 12 else Wall.hour w % 12
  let base := if 30 ≤ Wall.minute w then 0x1F55C else 0x1F550
  String.ofList [Char.ofNat (base + hour - 1).toNat]

/-- `_humanise_gap`, of a gap in microseconds. -/
def humaniseGap (gap : Int) : String :=
  let minutes := gap / 60000000
  if minutes ≤ 0 then "现在开始"
  else if minutes < 60 then "还有 " ++ toString minutes ++ " 分钟"
  else if minutes < 24 * 60 then
    let rest := minutes % 60
    "还有 " ++ toString (minutes / 60) ++ " 小时" ++
      (if rest = 0 then "" else " " ++ toString rest ++ " 分钟")
  else
    let hours := minutes % (24 * 60) / 60
    "还有 " ++ toString (minutes / (24 * 60)) ++ " 天" ++
      (if hours = 0 then "" else " " ++ toString hours ++ " 小时")

end Zhixu
