import SubmarineSwap.Hash.Sha256

namespace SubmarineSwap.Hash

def hmacSha256 (key msg : Bytes) : Bytes :=
  let k := if key.length > 64 then sha256 key else key
  let block := k ++ List.replicate (64 - k.length) 0
  let inner := block.map (· ^^^ 0x36)
  let outer := block.map (· ^^^ 0x5c)
  sha256 (outer ++ sha256 (inner ++ msg))

theorem hmacSha256_length (key msg : Bytes) : (hmacSha256 key msg).length = 32 :=
  sha256_length _

end SubmarineSwap.Hash
