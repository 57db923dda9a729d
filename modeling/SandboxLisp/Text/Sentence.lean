/-!
# Sentences

The words of a message are put together from fixed parts and from texts that the message shows.
-/

namespace SandboxLisp.Text

/-- The parts one after another. -/
@[irreducible] def sentence (parts : List String) : String :=
  String.join parts

end SandboxLisp.Text
