/-!
# Emoji codes

The codes that are shown as emoji, each with its text, in ascending order of the codes. The colon stands
between the digits and the letters in that order, and before the underscore.

## Contents
- `Emoji.table`: codes and texts.
-/

namespace TeamChat.Emoji

/-- Codes with their colons, and what is shown for them. -/
def table : Array (String × String) := #[
  (":+1:", "👍"), (":-1:", "👎"), (":100:", "💯"), (":alarm_clock:", "⏰"), (":angry:", "😠"),
  (":astonished:", "😲"), (":balloon:", "🎈"), (":bangbang:", "‼️"), (":beer:", "🍺"),
  (":beers:", "🍻"), (":bell:", "🔔"), (":blush:", "😊"), (":bomb:", "💣"), (":boom:", "💥"),
  (":broken_heart:", "💔"), (":bug:", "🐛"), (":bulb:", "💡"), (":cake:", "🍰"),
  (":calendar:", "📆"), (":camera:", "📷"), (":cat:", "🐱"), (":check:", "✔️"), (":clap:", "👏"),
  (":clock1:", "🕐"), (":cloud:", "☁️"), (":coffee:", "☕"), (":cold_sweat:", "😰"),
  (":computer:", "💻"), (":confused:", "😕"), (":construction:", "🚧"), (":cool:", "🆒"),
  (":cry:", "😢"), (":crying_cat_face:", "😿"), (":disappointed:", "😞"), (":dizzy:", "💫"),
  (":dog:", "🐶"), (":eyes:", "👀"), (":facepalm:", "🤦"), (":fire:", "🔥"), (":fist:", "✊"),
  (":flushed:", "😳"), (":ghost:", "👻"), (":gift:", "🎁"), (":grin:", "😁"), (":grinning:", "😀"),
  (":heart:", "❤️"), (":heart_eyes:", "😍"), (":heavy_check_mark:", "✔️"),
  (":heavy_plus_sign:", "➕"), (":hourglass:", "⌛"), (":hugging_face:", "🤗"), (":hushed:", "😯"),
  (":innocent:", "😇"), (":joy:", "😂"), (":key:", "🔑"), (":kiss:", "💋"),
  (":kissing_heart:", "😘"), (":laughing:", "😆"), (":lock:", "🔒"), (":mag:", "🔍"),
  (":mask:", "😷"), (":memo:", "📝"), (":moneybag:", "💰"), (":muscle:", "💪"),
  (":neutral_face:", "😐"), (":no_entry:", "⛔"), (":no_entry_sign:", "🚫"), (":ok:", "🆗"),
  (":ok_hand:", "👌"), (":open_mouth:", "😮"), (":package:", "📦"), (":partying_face:", "🥳"),
  (":pencil:", "📝"), (":pensive:", "😔"), (":point_down:", "👇"), (":point_left:", "👈"),
  (":point_right:", "👉"), (":point_up:", "☝️"), (":pray:", "🙏"), (":question:", "❓"),
  (":rage:", "😡"), (":raised_hands:", "🙌"), (":relaxed:", "☺️"), (":relieved:", "😌"),
  (":robot_face:", "🤖"), (":rocket:", "🚀"), (":rolling_on_the_floor_laughing:", "🤣"),
  (":rotating_light:", "🚨"), (":scream:", "😱"), (":see_no_evil:", "🙈"), (":shrug:", "🤷"),
  (":simple_smile:", "🙂"), (":skull:", "💀"), (":sleeping:", "😴"),
  (":slightly_smiling_face:", "🙂"), (":smile:", "😄"), (":smiley:", "😃"), (":smirk:", "😏"),
  (":sob:", "😭"), (":sparkles:", "✨"), (":star:", "⭐"), (":stuck_out_tongue:", "😛"),
  (":stuck_out_tongue_winking_eye:", "😜"), (":sunglasses:", "😎"), (":sunny:", "☀️"),
  (":sweat:", "😓"), (":sweat_smile:", "😅"), (":tada:", "🎉"), (":thinking_face:", "🤔"),
  (":thumbsdown:", "👎"), (":thumbsup:", "👍"), (":tired_face:", "😫"), (":trophy:", "🏆"),
  (":unamused:", "😒"), (":upside_down_face:", "🙃"), (":v:", "✌️"), (":warning:", "⚠️"),
  (":wave:", "👋"), (":white_check_mark:", "✅"), (":wink:", "😉"), (":worried:", "😟"),
  (":x:", "❌"), (":yum:", "😋"), (":zap:", "⚡"), (":zzz:", "💤")]

end TeamChat.Emoji
