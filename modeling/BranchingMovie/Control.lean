import BranchingMovie.Text.Fields

/-!
# The control panel

The buttons that scripts can wait for, the trigger that a condition listens to, clicks, and what the
engine asks of the panel in return.
-/

namespace BranchingMovie

/-! ## Buttons -/

/-- A button on the control panel. -/
inductive Control where
  | analysis
  | diagnostics
  | yes
  | no
  | status
  | startup
  | deploy
  | grappleArm
  | floodlight
  | wound
  | patternPrev
  | patternSend
  | patternNext
  | colorsIr
  | colorsVis
  | colorsUv
  | colors1
  | colors2
  | colors3
  | colors4
  | colors5
  | colors6
  deriving DecidableEq, Repr

namespace Control

/-- Every button, in the order of their codes. -/
def all : List Control :=
  [analysis, diagnostics, yes, no, status, startup, deploy, grappleArm, floodlight, wound,
    patternPrev, patternSend, patternNext, colorsIr, colorsVis, colorsUv, colors1, colors2, colors3,
    colors4, colors5, colors6]

/-- The name of a button, as it is written in timed input and in messages. -/
def name : Control → String
  | analysis => "analysis"
  | diagnostics => "diagnostics"
  | yes => "yes"
  | no => "no"
  | status => "status"
  | startup => "startup"
  | deploy => "deploy"
  | grappleArm => "grapple_arm"
  | floodlight => "floodlight"
  | wound => "wound"
  | patternPrev => "pattern_prev"
  | patternSend => "pattern_send"
  | patternNext => "pattern_next"
  | colorsIr => "colors_ir"
  | colorsVis => "colors_vis"
  | colorsUv => "colors_uv"
  | colors1 => "colors_1"
  | colors2 => "colors_2"
  | colors3 => "colors_3"
  | colors4 => "colors_4"
  | colors5 => "colors_5"
  | colors6 => "colors_6"

/-- The number that stands for a button in the conditions of a script. -/
def code : Control → Int32
  | analysis => 1
  | diagnostics => 2
  | yes => 3
  | no => 4
  | status => 5
  | startup => 6
  | deploy => 7
  | grappleArm => 8
  | floodlight => 9
  | wound => 10
  | patternPrev => 11
  | patternSend => 12
  | patternNext => 13
  | colorsIr => 14
  | colorsVis => 15
  | colorsUv => 16
  | colors1 => 17
  | colors2 => 18
  | colors3 => 19
  | colors4 => 20
  | colors5 => 21
  | colors6 => 22

/-- The name of a button in a document, where no underscore stands in front of a digit. -/
def documentName : Control → String
  | colors1 => "colors1"
  | colors2 => "colors2"
  | colors3 => "colors3"
  | colors4 => "colors4"
  | colors5 => "colors5"
  | colors6 => "colors6"
  | control => control.name

/-- The name of a button in a printed transcript: its words run together, each with a capital. -/
def title : Control → String
  | analysis => "Analysis"
  | diagnostics => "Diagnostics"
  | yes => "Yes"
  | no => "No"
  | status => "Status"
  | startup => "Startup"
  | deploy => "Deploy"
  | grappleArm => "GrappleArm"
  | floodlight => "Floodlight"
  | wound => "Wound"
  | patternPrev => "PatternPrev"
  | patternSend => "PatternSend"
  | patternNext => "PatternNext"
  | colorsIr => "ColorsIr"
  | colorsVis => "ColorsVis"
  | colorsUv => "ColorsUv"
  | colors1 => "Colors1"
  | colors2 => "Colors2"
  | colors3 => "Colors3"
  | colors4 => "Colors4"
  | colors5 => "Colors5"
  | colors6 => "Colors6"

/-- The button of a name, whatever the case of its ASCII letters, with hyphens for underscores and
blanks around it. -/
def ofName? (text : List Char) : Option Control :=
  let spelling := (Text.lowerAscii (Text.trim text)).map fun c => if c = '-' then '_' else c
  all.find? fun control => control.name.toList == spelling

end Control

/-! ## Triggers -/

/-- What a condition of a script listens to. -/
inductive Trigger where
  /-- A button is pressed. -/
  | control (control : Control)
  /-- The zone in the condition's position is clicked. -/
  | zone
  deriving DecidableEq, Repr

namespace Trigger

/-- The code of a condition that listens to the zone in its position. -/
def zoneCode : Int32 := 100

/-- The trigger that a condition code stands for. -/
def ofCode? (code : Int32) : Option Trigger :=
  if code = zoneCode then some zone
  else (Control.all.find? fun button => button.code == code).map control

/-- The name of a trigger in messages. -/
def name : Trigger → String
  | control button => button.name
  | zone => "zone"

end Trigger

/-! ## Input and output -/

/-- The place of a click, in the coordinates of the clip. -/
structure Point where
  x : Int32
  y : Int32
  deriving DecidableEq, Repr

/-- What the player of the film does. -/
inductive InputEvent where
  | control (control : Control)
  | point (point : Point)
  deriving DecidableEq, Repr

/-- What the engine asks of the panel. -/
inductive SurfaceEvent where
  /-- The pointer for zones is shown or hidden. -/
  | laserMode (enabled : Bool)
  /-- The navigation buttons are shown or hidden. -/
  | navigation (enabled : Bool)
  /-- The run is over and the menu takes over. -/
  | exitToMenu
  deriving DecidableEq, Repr

end BranchingMovie
