import AgentRuntime.Orchestration.TokenRoundTrip

/-!
# Tokens that come back

A token carries its conversation twice, and the names of the key and of the checkpoint namespace, as JSON in UTF-8
and in base64. The field that takes it back has 4096 characters, which is too short for the longest of these names.
-/

namespace AgentRuntime.Orchestration
open State Text

section Sizes

variable {floats : FloatCodec}

end Sizes

namespace TokenService

variable {service service' : TokenService} {identity resumed : RunIdentity} {now later : Int}

variable {raw raw' : RawChatRequest} {origin : ChatRequest} {draws draws' : Draws} {earlier : Int}

section Samples

end Samples

end TokenService

end AgentRuntime.Orchestration
