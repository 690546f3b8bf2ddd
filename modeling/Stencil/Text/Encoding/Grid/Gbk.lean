import Stencil.Text.Encoding.Grid

/-! What GBK and GB 18030 add to GB 2312, apart from the unified ideographs that are laid out in
order. A row has the number of its first byte and 190 columns. -/
namespace Stencil.Text.Grid

/-- Symbols and compatibility ideographs of GBK. Two of them replace a character of GB 2312. -/
def gbkSymbols : Grid := [
  ⟨161, 99, "·"⟩,
  ⟨161, 105, "—"⟩,
  ⟨162, 96, "ⅰⅱⅲⅳⅴⅵⅶⅷⅸⅹ"⟩,
  ⟨166, 159, "︵︶︹︺︿﹀︽︾﹁﹂﹃﹄"⟩,
  ⟨166, 173, "︻︼︷︸︱"⟩,
  ⟨166, 179, "︳︴"⟩,
  ⟨168, 0, "ˊˋ˙–―‥‵℅℉↖↗↘↙∕∟∣≒≦≧⊿═║╒╓╔╕╖╗╘╙╚╛╜╝╞╟╠╡╢╣╤╥╦╧╨╩╪╫╬╭╮╯╰╱╲╳▁▂▃▄▅▆▇█▉▊▋▌▍▎▏▓▔▕▼▽◢◣◤◥☉⊕〒〝〞"⟩,
  ⟨168, 122, "ɑ"⟩,
  ⟨168, 124, "ńň"⟩,
  ⟨168, 127, "ɡ"⟩,
  ⟨169, 0, "〡〢〣〤〥〦〧〨〩㊣㎎㎏㎜㎝㎞㎡㏄㏎㏑㏒㏕︰￢￤"⟩,
  ⟨169, 25, "℡㈱"⟩,
  ⟨169, 28, "‐"⟩,
  ⟨169, 32, "ー゛゜ヽヾ〆ゝゞ﹉﹊﹋﹌﹍﹎﹏﹐﹑﹒﹔﹕﹖﹗﹙﹚﹛﹜﹝﹞﹟﹠﹡﹢﹣﹤﹥﹦﹨﹩﹪﹫"⟩,
  ⟨169, 85, "〇"⟩,
  ⟨253, 91, "\uf92c\uf979\uf995\uf9e7\uf9f1"⟩,
  ⟨254, 0, "\ufa0c\ufa0d﨎﨏﨑﨓﨔\ufa18﨟\ufa20﨡﨣﨤﨧﨨﨩"⟩]

/-- What GB 18030 has in cells that GBK leaves empty. -/
def gb18030Added : Grid := [
  ⟨162, 106, "\ue766\ue767\ue768\ue769\ue76a\ue76b"⟩,
  ⟨162, 162, "€\ue76d"⟩,
  ⟨162, 174, "\ue76e\ue76f"⟩,
  ⟨162, 188, "\ue770\ue771"⟩,
  ⟨164, 179, "\ue772\ue773\ue774\ue775\ue776\ue777\ue778\ue779\ue77a\ue77b\ue77c"⟩,
  ⟨165, 182, "\ue77d\ue77e\ue77f\ue780\ue781\ue782\ue783\ue784"⟩,
  ⟨166, 120, "\ue785\ue786\ue787\ue788\ue789\ue78a\ue78b\ue78c"⟩,
  ⟨166, 152, "\ue78d\ue78e\ue78f\ue790\ue791\ue792\ue793"⟩,
  ⟨166, 171, "\ue794\ue795"⟩,
  ⟨166, 178, "\ue796"⟩,
  ⟨166, 181, "\ue797\ue798\ue799\ue79a\ue79b\ue79c\ue79d\ue79e\ue79f"⟩,
  ⟨167, 129, "\ue7a0\ue7a1\ue7a2\ue7a3\ue7a4\ue7a5\ue7a6\ue7a7\ue7a8\ue7a9\ue7aa\ue7ab\ue7ac" ++
    "\ue7ad\ue7ae"⟩,
  ⟨167, 177, "\ue7af\ue7b0\ue7b1\ue7b2\ue7b3\ue7b4\ue7b5\ue7b6\ue7b7\ue7b8\ue7b9\ue7ba\ue7bb"⟩,
  ⟨168, 85, "\ue7bc\ue7bd\ue7be\ue7bf\ue7c0\ue7c1\ue7c2\ue7c3\ue7c4\ue7c5\ue7c6"⟩,
  ⟨168, 123, "\ue7c7"⟩,
  ⟨168, 126, "ǹ"⟩,
  ⟨168, 128, "\ue7c9\ue7ca\ue7cb\ue7cc"⟩,
  ⟨168, 169, "\ue7cd\ue7ce\ue7cf\ue7d0\ue7d1\ue7d2\ue7d3\ue7d4\ue7d5\ue7d6\ue7d7\ue7d8\ue7d9" ++
    "\ue7da\ue7db\ue7dc\ue7dd\ue7de\ue7df\ue7e0\ue7e1"⟩,
  ⟨169, 24, "\ue7e2"⟩,
  ⟨169, 27, "\ue7e3"⟩,
  ⟨169, 29, "\ue7e4\ue7e5\ue7e6"⟩,
  ⟨169, 72, "〾⿰⿱⿲⿳⿴⿵⿶⿷⿸⿹⿺⿻"⟩,
  ⟨169, 86, "\ue7f4\ue7f5\ue7f6\ue7f7\ue7f8\ue7f9\ue7fa\ue7fb\ue7fc\ue7fd\ue7fe\ue7ff\ue800"⟩,
  ⟨169, 175, "\ue801\ue802\ue803\ue804\ue805\ue806\ue807\ue808\ue809\ue80a\ue80b\ue80c\ue80d" ++
    "\ue80e\ue80f"⟩,
  ⟨215, 185, "\ue810\ue811\ue812\ue813\ue814"⟩,
  ⟨254, 16, "⺁\ue816\ue817\ue818⺄㑳㑇⺈⺋\ue81e㖞㘚㘎⺌⺗㥮㤘\ue826㧏㧟㩳㧐\ue82b\ue82c㭎㱮㳠⺧\ue831\ue832⺪䁖䅟⺮䌷⺳⺶⺷" ++
    "\ue83b䎱䎬⺻䏝䓖䙡䙌\ue843䜣䜩䝼䞍⻊䥇䥺䥽䦂䦃䦅䦆䦟䦛䦷䦶\ue854\ue855䲣䲟䲠䲡䱷䲢䴓䴔䴕䴖䴗䴘䴙䶮\ue864"⟩]

end Stencil.Text.Grid
