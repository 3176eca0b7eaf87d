/-! What a client sees of a call: a reply, or the status of a call that gRPC itself failed. -/
namespace Camera3D.Grpc

structure GrpcStatus where
  errorCode : Int32
  errorMessage : String
  deriving DecidableEq

abbrev Rpc (ρ : Type) := Except GrpcStatus ρ

end Camera3D.Grpc
