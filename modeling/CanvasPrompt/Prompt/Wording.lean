import CanvasPrompt.Canvas.Basic

/-!
# Wording of prompts

The fixed texts of prompts: the quality suffix, the instructions to the reasoning service, the
guidance and the marker of each role, and the flat prompt that joins what a canvas says.
-/

namespace CanvasPrompt.Prompt

/-- What is asked for when nothing else is, and added where no reasoning service has improved the
prompt. -/
def qualitySuffix : Text :=
  ("professional photography, cinematic lighting, 8k resolution, " ++
    "highly detailed, dramatic composition").codes

/-- The range of words that is asked for unless another one is set. -/
def defaultWordBudget : Text := "100-200".codes

/-- The instructions up to the range of words. -/
def systemOpening : Text :=
  ("You are an expert creative director and prompt engineer for high-end advertising agencies.\n" ++
    "Your goal is to take a rough collection of descriptors and visual references and turn them " ++
    "into one cohesive, professional image generation prompt.\n\n" ++
    "The user is providing a graph of nodes (images and text descriptors) plus labelled " ++
    "relationships between them.\n\nRules:\n1. Use detailed, sensory language.\n" ++
    "2. Focus on lighting, composition, texture, and mood.\n3. Keep it between ").codes

/-- The instructions after the range of words. -/
def systemClosing : Text :=
  (" words.\n4. Do not include a \"Here is the prompt\" preamble, just return the prompt text.\n" ++
    "5. Describe what the reference images show; never mention that images were provided.\n").codes

/-- The instructions to the reasoning service. -/
def system (words : Text) : Text :=
  systemOpening ++ words ++ systemClosing

/-- What the reasoning service is told about the images of a role. -/
def guidance : Role → Text
  | .subject =>
    ("Make the SUBJECT images the focal point: describe their identity, features and pose " ++
      "precisely.").codes
  | .scene =>
    ("Place the subject inside the SCENE images' environment: setting, depth, time of day and " ++
      "atmosphere.").codes
  | .style =>
    ("Apply the STYLE images' visual language: palette, medium, lighting treatment and texture. " ++
      "Do not copy their content.").codes
  | .reference =>
    ("Use the REFERENCE images for supporting details only; they must not dominate the " ++
      "composition.").codes

/-- How an image of a role is announced. -/
def announcement : Role → Text
  | .subject => "Subject reference".codes
  | .scene => "Scene reference".codes
  | .style => "Style reference".codes
  | .reference => "Additional reference".codes

/-- The marker that follows an image, so that its role is known. A name that is no role is announced
like a reference; an empty label or note counts as none. -/
def marker (roleName : Text) (altLabel note : Option Text) : Text :=
  let head := announcement ((Role.named? roleName).getD .reference)
  let label := Text.orElse (altLabel.getD []) "untitled image".codes
  let remark := note.getD []
  Code.scalar '[' :: head ++ ": ".codes ++ label ++
    (if remark.isEmpty then [] else " | note: ".codes ++ remark) ++ [Code.scalar ']']

/-- What stands for an image without a label in the flat prompt. -/
def imagePlaceholder : Text := "image reference".codes

/-- The labels of the image nodes, or a placeholder for each one without. -/
def imageLabels (nodes : List Node) : List Text :=
  (Snapshot.imageNodesOf nodes).map fun n => Text.orElse (n.altLabel.getD []) imagePlaceholder

/-- The flat prompt: the descriptions in order, then the labels of the images. -/
def simple (nodes : List Node) : Text :=
  ", ".codes.intercalate (Snapshot.descriptors nodes ++ imageLabels nodes)

end CanvasPrompt.Prompt
